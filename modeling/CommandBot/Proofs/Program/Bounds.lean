/-
**How often a program can ask.**

Questions of some kinds cost something, such as writing to the store.  How many of them a program
can come to ask is found on its tree, before anyone answers it, and no run exchanges more.

Main definitions:

* `CommandBot.Program.AsksAtMost` — so many questions of a kind, and no more, can be asked.

Main results:

* `CommandBot.Program.AsksAtMost.bind`, `CommandBot.Program.AsksAtMost.translate` — the bounds of a
  sequence add up, and a program put in other terms keeps its bound;
* `CommandBot.Program.AsksAtMost.countP_le` — **no run exchanges more.**
-/

import CommandBot.Proofs.Program.Exchanges

set_option relaxedAutoImplicit false
set_option autoImplicit false

namespace CommandBot.Program

variable {Q Q' : Type} {A : Q → Type} {A' : Q' → Type} {α β : Type}

/-- At most so many questions of a kind can be asked, whatever the answers. -/
inductive AsksAtMost (P : Q → Bool) : Nat → Program A α → Prop where
  | done (n : Nat) (a : α) : AsksAtMost P n (.done a)
  /-- A question of another kind is free. -/
  | free {n : Nat} {q : Q} {next : A q → Program A α} (h : P q = false)
      (rest : ∀ answer, AsksAtMost P n (next answer)) : AsksAtMost P n (.ask q next)
  | spend {n : Nat} {q : Q} {next : A q → Program A α}
      (rest : ∀ answer, AsksAtMost P n (next answer)) : AsksAtMost P (n + 1) (.ask q next)

namespace AsksAtMost

variable {P : Q → Bool} {p : Program A α} {m n : Nat}

theorem mono (hp : p.AsksAtMost P m) (h : m ≤ n) : p.AsksAtMost P n := by
  induction hp generalizing n with
  | done m a => exact .done n a
  | free hq _ ih => exact .free hq fun answer => ih answer h
  | spend _ ih =>
      obtain ⟨n, rfl⟩ := Nat.exists_eq_add_of_lt h
      exact .spend fun answer => ih answer (Nat.le_add_right _ n)

/-- **The bounds of a sequence add up.** -/
theorem bind {f : α → Program A β} (hp : p.AsksAtMost P m) (hf : ∀ a, (f a).AsksAtMost P n) :
    (p.bind f).AsksAtMost P (m + n) := by
  induction hp with
  | done m a => exact (hf a).mono (Nat.le_add_left n m)
  | free hq _ ih => exact .free hq ih
  | spend _ ih =>
      rw [Nat.succ_add]
      exact .spend ih

/-- A program that cannot ask a question of the kind has the bound zero. -/
theorem of_asks (hp : p.Asks fun q => P q = false) : p.AsksAtMost P 0 := by
  induction hp with
  | done a => exact .done 0 a
  | ask first _ ih => exact .free first ih

/-- **A program put in other terms keeps its bound**, if no question becomes more than one of the
kind, and only those of the kind become one. -/
theorem translate {P' : Q' → Bool} {f : (q : Q) → Program A' (A q)} (hp : p.AsksAtMost P n)
    (hone : ∀ q, (f q).AsksAtMost P' 1) (hnone : ∀ q, P q = false → (f q).AsksAtMost P' 0) :
    (p.translate f).AsksAtMost P' n := by
  induction hp with
  | done n a => exact .done n a
  | @free n q next hq _ ih =>
      rw [← Nat.zero_add n]
      exact (hnone q hq).bind ih
  | @spend n q next _ ih =>
      rw [Nat.add_comm]
      exact (hone q).bind ih

/-- **No run exchanges more.** -/
theorem countP_le {exchanges : List ((q : Q) × A q)} {result : α} (hp : p.AsksAtMost P n)
    (h : Runs p exchanges result) : (exchanges.map Sigma.fst).countP P ≤ n := by
  induction hp generalizing exchanges with
  | done n a =>
      obtain ⟨rfl, -⟩ := runs_done_iff.1 h
      exact Nat.zero_le n
  | free hq _ ih =>
      obtain ⟨answer, rest, rfl, hrest⟩ := runs_ask_iff.1 h
      rw [List.map_cons, List.countP_cons_of_neg (by simp [hq])]
      exact ih answer hrest
  | spend _ ih =>
      obtain ⟨answer, rest, rfl, hrest⟩ := runs_ask_iff.1 h
      rw [List.map_cons, List.countP_cons]
      have := ih answer hrest
      split
      · omega
      · omega

end AsksAtMost

end CommandBot.Program
