/-
**Programs that ask.**

What the bot does to a message depends on answers from outside: of the store, the image board, the
host, the chat service.  A program says what it asks for and how it goes on with each answer; it
does not say who answers.  A run pairs it with something that does.

* `CommandBot.Program` — a result, or a question with a continuation;
* `CommandBot.Program.bind` — one program after another; programs form a lawful monad;
* `CommandBot.Program.run` — the run against an answerer with a state;
* `CommandBot.Program.translate` — the program with each question asked in other terms;
* `CommandBot.Program.Runs` — the exchanges that lead to a result, whoever answers.
-/

set_option relaxedAutoImplicit false
set_option autoImplicit false

namespace CommandBot

/-- A program over questions `Q`; the question `q` is answered by an `A q`. -/
inductive Program {Q : Type} (A : Q → Type) (α : Type) : Type where
  /-- The program has its result. -/
  | done (result : α)
  /-- The program asks, and goes on with the answer. -/
  | ask (question : Q) (next : A question → Program A α)

namespace Program

variable {Q : Type} {A : Q → Type} {α β γ : Type}

/-! ### Sequence -/

/-- One program, and then another that knows its result. -/
def bind : Program A α → (α → Program A β) → Program A β
  | done a, f => f a
  | ask q next, f => ask q fun answer => (next answer).bind f

instance : Monad (Program A) where
  pure := done
  bind := bind

@[simp] theorem pure_eq (a : α) : (pure a : Program A α) = done a := rfl

@[simp] theorem bind_eq (p : Program A α) (f : α → Program A β) : p >>= f = p.bind f := rfl

@[simp] theorem bind_done (a : α) (f : α → Program A β) : (done a).bind f = f a := rfl

@[simp] theorem bind_ask (q : Q) (next : A q → Program A α) (f : α → Program A β) :
    (ask q next).bind f = ask q fun answer => (next answer).bind f := rfl

theorem bind_done_right (p : Program A α) : p.bind done = p := by
  induction p with
  | done a => rfl
  | ask q next ih => simp [ih]

theorem bind_assoc (p : Program A α) (f : α → Program A β) (g : β → Program A γ) :
    (p.bind f).bind g = p.bind fun a => (f a).bind g := by
  induction p with
  | done a => rfl
  | ask q next ih => simp [ih]

instance : LawfulMonad (Program A) := LawfulMonad.mk'
  (m := Program A)
  (fun p => bind_done_right p)
  (fun _ _ => rfl)
  (fun p f g => bind_assoc p f g)

/-- The program that asks one question and has the answer as its result. -/
def perform (q : Q) : Program A (A q) := ask q done

@[simp] theorem bind_perform (q : Q) (f : A q → Program A β) :
    (perform q : Program A (A q)).bind f = ask q f := rfl

/-! ### Runs -/

/-- The result of a program, and the state of whoever answers after its last question. -/
def run {σ : Type} (answer : (q : Q) → σ → A q × σ) : Program A α → σ → α × σ
  | done a, s => (a, s)
  | ask q next, s => run answer (next (answer q s).1) (answer q s).2

/-- **The run of a sequence is the sequence of the runs.** -/
theorem run_bind {σ : Type} (answer : (q : Q) → σ → A q × σ) (p : Program A α)
    (f : α → Program A β) (s : σ) :
    (p.bind f).run answer s = (f (p.run answer s).1).run answer (p.run answer s).2 := by
  induction p generalizing s with
  | done a => rfl
  | ask q next ih => simp [run, ih]

/-- The exchanges that lead a program to a result: what it asked, with the answers it got. -/
inductive Runs : Program A α → List ((q : Q) × A q) → α → Prop where
  | done (a : α) : Runs (.done a) [] a
  | ask {q : Q} {next : A q → Program A α} {exchanges : List ((q : Q) × A q)} {result : α}
      (answer : A q) (rest : Runs (next answer) exchanges result) :
      Runs (.ask q next) (⟨q, answer⟩ :: exchanges) result

/-! ### Other terms -/

/-- The program in which each question is replaced by a program of other questions. -/
def translate {Q' : Type} {A' : Q' → Type} (f : (q : Q) → Program A' (A q)) :
    Program A α → Program A' α
  | done a => done a
  | ask q next => (f q).bind fun answer => (next answer).translate f

@[simp] theorem translate_done {Q' : Type} {A' : Q' → Type} (f : (q : Q) → Program A' (A q))
    (a : α) : (done a : Program A α).translate f = done a := rfl

theorem translate_bind {Q' : Type} {A' : Q' → Type} (f : (q : Q) → Program A' (A q))
    (p : Program A α) (g : α → Program A β) :
    (p.bind g).translate f = (p.translate f).bind fun a => (g a).translate f := by
  induction p with
  | done a => rfl
  | ask q next ih => simp [translate, ih, bind_assoc]

end Program

end CommandBot
