/-
**What a program can ask, and what a run passes through.**

A program over questions can be judged before anyone answers it.  If every question that it can
reach has some property, then so has every question that it does ask, whoever answers; and what such
questions leave as it was, the whole run leaves as it was.

Main definitions:

* `CommandBot.Program.Asks` — every question that a program can ask has a property;
* `CommandBot.Program.states` — the states of the answerer after each question of a run;
* `CommandBot.Program.transcript` — what is exchanged in a run.

Main results:

* `CommandBot.Program.Asks.of_runs` — **only such questions are exchanged**;
* `CommandBot.Program.Asks.view_states` — **what none of them changes stays as it is**;
* `CommandBot.Program.runs_bind_iff` — the exchanges of a sequence are those of its parts;
* `CommandBot.Program.states_bind`, `CommandBot.Program.transcript_bind` — a sequence passes through
  the states of its parts, and has their exchanges.
-/

import CommandBot.Program

set_option relaxedAutoImplicit false
set_option autoImplicit false

namespace CommandBot.Program

variable {Q Q' : Type} {A : Q → Type} {A' : Q' → Type} {α β : Type}

/-! ### The questions within reach -/

/-- Every question that the program can ask, whatever the answers, has the property. -/
inductive Asks (P : Q → Prop) : Program A α → Prop where
  | done (a : α) : Asks P (.done a)
  | ask {q : Q} {next : A q → Program A α} (first : P q)
      (rest : ∀ answer, Asks P (next answer)) : Asks P (.ask q next)

namespace Asks

variable {P : Q → Prop} {p : Program A α}

theorem mono {P' : Q → Prop} (hp : p.Asks P) (h : ∀ q, P q → P' q) : p.Asks P' := by
  induction hp with
  | done a => exact .done a
  | ask first _ ih => exact .ask (h _ first) ih

theorem bind {f : α → Program A β} (hp : p.Asks P) (hf : ∀ a, (f a).Asks P) :
    (p.bind f).Asks P := by
  induction hp with
  | done a => exact hf a
  | ask first _ ih => exact .ask first ih

/-- A program put in other terms asks what its questions are put as. -/
theorem translate {P' : Q' → Prop} {f : (q : Q) → Program A' (A q)} (hp : p.Asks P)
    (hf : ∀ q, P q → (f q).Asks P') : (p.translate f).Asks P' := by
  induction hp with
  | done a => exact .done a
  | ask first _ ih => exact (hf _ first).bind ih

/-- A program asks something. -/
theorem trivial (p : Program A α) : p.Asks fun _ => True := by
  induction p with
  | done a => exact .done a
  | ask q next ih => exact .ask True.intro ih

end Asks

theorem translate_ask (f : (q : Q) → Program A' (A q)) (q : Q) (next : A q → Program A α) :
    (ask q next).translate f = (f q).bind fun answer => (next answer).translate f := rfl

/-! ### Exchanges -/

@[simp] theorem runs_done_iff {a result : α} {exchanges : List ((q : Q) × A q)} :
    Runs (done a) exchanges result ↔ exchanges = [] ∧ result = a := by
  constructor
  · rintro ⟨⟩
    exact ⟨rfl, rfl⟩
  · rintro ⟨rfl, rfl⟩
    exact .done result

theorem runs_ask_iff {q : Q} {next : A q → Program A α} {result : α}
    {exchanges : List ((q : Q) × A q)} :
    Runs (ask q next) exchanges result ↔
      ∃ answer rest, exchanges = ⟨q, answer⟩ :: rest ∧ Runs (next answer) rest result := by
  constructor
  · rintro (_ | ⟨answer, rest⟩)
    exact ⟨answer, _, rfl, rest⟩
  · rintro ⟨answer, rest, rfl, h⟩
    exact .ask answer h

/-- **The exchanges of a sequence are those of its parts**, one after the other. -/
theorem runs_bind_iff {p : Program A α} {f : α → Program A β} {result : β}
    {exchanges : List ((q : Q) × A q)} :
    Runs (p.bind f) exchanges result ↔
      ∃ a first second, exchanges = first ++ second ∧ Runs p first a ∧
        Runs (f a) second result := by
  induction p generalizing exchanges with
  | done a =>
      constructor
      · intro h
        exact ⟨a, [], exchanges, rfl, .done a, h⟩
      · rintro ⟨a', first, second, rfl, hp, hf⟩
        obtain ⟨rfl, rfl⟩ := runs_done_iff.1 hp
        exact hf
  | ask q next ih =>
      -- The first exchange of the sequence is the first of the first program.
      rw [bind_ask, runs_ask_iff]
      constructor
      · rintro ⟨answer, rest, rfl, h⟩
        obtain ⟨a, first, second, rfl, hp, hf⟩ := (ih answer).1 h
        exact ⟨a, ⟨q, answer⟩ :: first, second, rfl, .ask answer hp, hf⟩
      · rintro ⟨a, first, second, rfl, hp, hf⟩
        obtain ⟨answer, rest, rfl, hrest⟩ := runs_ask_iff.1 hp
        exact ⟨answer, rest ++ second, rfl, (ih answer).2 ⟨a, rest, second, rfl, hrest, hf⟩⟩

/-- **Only questions within reach are exchanged.** -/
theorem Asks.of_runs {P : Q → Prop} {p : Program A α} {exchanges : List ((q : Q) × A q)}
    {result : α} (hp : p.Asks P) (h : Runs p exchanges result) : ∀ x ∈ exchanges, P x.1 := by
  induction h with
  | done a => simp
  | ask answer _ ih =>
      cases hp with
      | ask first rest =>
          intro x hx
          rcases List.mem_cons.1 hx with rfl | hx
          · exact first
          · exact ih (rest answer) x hx

/-! ### The states of a run -/

variable {σ : Type} {answer : (q : Q) → σ → A q × σ}

/-- The states of the answerer after each question of a run, in order. -/
def states (answer : (q : Q) → σ → A q × σ) : Program A α → σ → List σ
  | done _, _ => []
  | ask q next, s => (answer q s).2 :: states answer (next (answer q s).1) (answer q s).2

@[simp] theorem states_done (a : α) (s : σ) : (done a).states answer s = [] := rfl

@[simp] theorem states_ask (q : Q) (next : A q → Program A α) (s : σ) :
    (ask q next).states answer s =
      (answer q s).2 :: (next (answer q s).1).states answer (answer q s).2 := rfl

@[simp] theorem run_done (a : α) (s : σ) : (done a).run answer s = (a, s) := rfl

@[simp] theorem run_ask (q : Q) (next : A q → Program A α) (s : σ) :
    (ask q next).run answer s = (next (answer q s).1).run answer (answer q s).2 := rfl

/-- **A sequence passes through the states of its parts.** -/
theorem states_bind (p : Program A α) (f : α → Program A β) (s : σ) :
    (p.bind f).states answer s =
      p.states answer s ++ (f (p.run answer s).1).states answer (p.run answer s).2 := by
  induction p generalizing s with
  | done a => rfl
  | ask q next ih => simp [ih]

/-- What is exchanged in a run. -/
def transcript (answer : (q : Q) → σ → A q × σ) : Program A α → σ → List ((q : Q) × A q)
  | done _, _ => []
  | ask q next, s =>
      ⟨q, (answer q s).1⟩ :: transcript answer (next (answer q s).1) (answer q s).2

@[simp] theorem transcript_done (a : α) (s : σ) : (done a).transcript answer s = [] := rfl

@[simp] theorem transcript_ask (q : Q) (next : A q → Program A α) (s : σ) :
    (ask q next).transcript answer s =
      ⟨q, (answer q s).1⟩ :: (next (answer q s).1).transcript answer (answer q s).2 := rfl

/-- **In a sequence first the one part has its exchanges, and then the other.** -/
theorem transcript_bind (p : Program A α) (f : α → Program A β) (s : σ) :
    (p.bind f).transcript answer s =
      p.transcript answer s ++ (f (p.run answer s).1).transcript answer (p.run answer s).2 := by
  induction p generalizing s with
  | done a => rfl
  | ask q next ih => simp [ih]

/-- A run is one by what is exchanged in it. -/
theorem runs_transcript (answer : (q : Q) → σ → A q × σ) (p : Program A α) (s : σ) :
    Runs p (p.transcript answer s) (p.run answer s).1 := by
  induction p generalizing s with
  | done a => exact .done a
  | ask q next ih => exact .ask (answer q s).1 (ih _ _)

/-- Whatever is exchanged in a run was answered in some state, with what no question changes as it
was at first. -/
theorem exists_answer_of_mem_transcript {τ : Type} (view : σ → τ)
    (hkeep : ∀ q s, view (answer q s).2 = view s) {p : Program A α} {s : σ} {x : (q : Q) × A q}
    (h : x ∈ p.transcript answer s) : ∃ t, view t = view s ∧ x.2 = (answer x.1 t).1 := by
  induction p generalizing s with
  | done a => cases h
  | ask q next ih =>
      rcases List.mem_cons.1 h with rfl | h
      · exact ⟨s, rfl, rfl⟩
      · obtain ⟨t, ht, hx⟩ := ih _ h
        exact ⟨t, ht.trans (hkeep q s), hx⟩

/-- What no question within reach changes is the same after a run. -/
theorem Asks.view_run {τ : Type} {view : σ → τ} {P : Q → Prop}
    (hkeep : ∀ q, P q → ∀ s, view (answer q s).2 = view s) {p : Program A α} (hp : p.Asks P)
    (s : σ) : view (p.run answer s).2 = view s := by
  induction hp generalizing s with
  | done a => rfl
  | ask first _ ih => rw [run_ask, ih, hkeep _ first]

/-- **What no question within reach changes is the same throughout a run.** -/
theorem Asks.view_states {τ : Type} {view : σ → τ} {P : Q → Prop}
    (hkeep : ∀ q, P q → ∀ s, view (answer q s).2 = view s) {p : Program A α} (hp : p.Asks P)
    (s : σ) : ∀ t ∈ p.states answer s, view t = view s := by
  induction hp generalizing s with
  | done a => simp
  | ask first _ ih =>
      intro t ht
      rcases List.mem_cons.1 ht with rfl | ht
      · exact hkeep _ first s
      · rw [ih _ _ t ht, hkeep _ first]

end CommandBot.Program
