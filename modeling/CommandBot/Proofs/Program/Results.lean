/-
**What a program comes to.**

A program can be judged by its result before anyone answers it, if it is known which answers its
questions can get: whoever keeps to such answers leads it to a result of the kind that was found.

Main definitions:

* `CommandBot.Program.Yields` — with fitting answers the program comes to a result with a property.

Main results:

* `CommandBot.Program.Yields.bind` — a sequence comes to what its second part comes to;
* `CommandBot.Program.Yields.of_run`, `CommandBot.Program.Yields.of_runs` — **whoever gives fitting
  answers gets such a result.**
-/

import CommandBot.Program

set_option relaxedAutoImplicit false
set_option autoImplicit false

namespace CommandBot.Program

variable {Q : Type} {A : Q → Type} {α β : Type}

/-- With answers that fit its questions the program comes to a result with the property. -/
inductive Yields (Fits : (q : Q) → A q → Prop) (P : α → Prop) : Program A α → Prop where
  | done {a : α} (h : P a) : Yields Fits P (.done a)
  | ask {q : Q} {next : A q → Program A α}
      (rest : ∀ answer, Fits q answer → Yields Fits P (next answer)) : Yields Fits P (.ask q next)

namespace Yields

variable {Fits : (q : Q) → A q → Prop} {P : α → Prop} {p : Program A α}

/-- A program comes to something. -/
theorem trivial (p : Program A α) : p.Yields Fits fun _ => True := by
  induction p with
  | done a => exact .done True.intro
  | ask q next ih => exact .ask fun answer _ => ih answer

/-- **A sequence comes to what its second part comes to**, whatever the first part hands on. -/
theorem bind {R : β → Prop} {f : α → Program A β} (hp : p.Yields Fits P)
    (hf : ∀ a, P a → (f a).Yields Fits R) : (p.bind f).Yields Fits R := by
  induction hp with
  | done h => exact hf _ h
  | ask _ ih => exact .ask ih

/-- **Whoever gives fitting answers gets such a result.** -/
theorem of_run {σ : Type} {answer : (q : Q) → σ → A q × σ}
    (hfits : ∀ q s, Fits q (answer q s).1) (hp : p.Yields Fits P) (s : σ) :
    P (p.run answer s).1 := by
  induction hp generalizing s with
  | done h => exact h
  | ask _ ih => exact ih _ (hfits _ s) _

/-- The same for what is exchanged in a run: if every answer fits, the result is such a one. -/
theorem of_runs {exchanges : List ((q : Q) × A q)} {result : α} (hp : p.Yields Fits P)
    (h : Runs p exchanges result) (hfits : ∀ x ∈ exchanges, Fits x.1 x.2) : P result := by
  induction h with
  | done a =>
      cases hp with
      | done h => exact h
  | ask answer _ ih =>
      cases hp with
      | ask hnext =>
          have hfirst := hfits _ List.mem_cons_self
          exact ih (hnext answer hfirst) fun x hx => hfits x (List.mem_cons_of_mem _ hx)

end Yields

end CommandBot.Program
