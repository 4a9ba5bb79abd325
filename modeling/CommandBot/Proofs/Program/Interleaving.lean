/-
**Programs that take turns.**

Several programs run beside each other against one answerer.  A turn answers one question of one of
them; which one takes the next turn is left open.  What can be said of every order of turns is found
from one program at a time: it has to keep an invariant of the answerer's state, and it may rely on
the others to keep it too.

The invariant is indexed by a count that only grows.  Each question adds its cost to the count, and
each program has a budget for the costs of its questions.

Main definitions:

* `CommandBot.Program.Turn` — one question of one of several programs is answered;
* `CommandBot.Program.Turns` — any number of turns, in any order;
* `CommandBot.Program.takeTurns` — the turns in a given order;
* `CommandBot.Program.Guards` — a program keeps an invariant, whatever the others do that keep it.

Main results:

* `CommandBot.Program.Guards.turn` — a turn keeps what the programs guard;
* `CommandBot.Program.Guards.between` — **at any two moments of a run the invariant holds, and the
  count has not become smaller**;
* `CommandBot.Program.Guards.of_turns` — **when all programs have their results, the invariant
  holds at a count within the budgets, and every result is as promised.**
-/

import CommandBot.Program
import Mathlib.Algebra.GroupWithZero.Nat
import Mathlib.Logic.Relation

set_option relaxedAutoImplicit false
set_option autoImplicit false

namespace CommandBot.Program

variable {Q : Type} {A : Q → Type} {α σ : Type}

/-! ### Turns -/

/-- One question of one of several programs is answered; the program goes on with the answer. -/
inductive Turn (answer : (q : Q) → σ → A q × σ) :
    List (Program A α) × σ → List (Program A α) × σ → Prop where
  | of (before after : List (Program A α)) (q : Q) (next : A q → Program A α) (s : σ) :
      Turn answer (before ++ ask q next :: after, s)
        (before ++ next (answer q s).1 :: after, (answer q s).2)

/-- Any number of turns, taken in any order. -/
def Turns (answer : (q : Q) → σ → A q × σ) :
    List (Program A α) × σ → List (Program A α) × σ → Prop :=
  Relation.ReflTransGen (Turn answer)

/-- Turns neither start programs nor lose any. -/
theorem Turns.length_eq {answer : (q : Q) → σ → A q × σ} {c c' : List (Program A α) × σ}
    (h : Turns answer c c') : c'.1.length = c.1.length := by
  induction h with
  | refl => rfl
  | tail _ hturn ih =>
      cases hturn with
      | of before after q next s =>
          rw [← ih]
          simp

/-! ### Turns in a given order -/

/-- One of several programs takes a turn, the one at the given place; a program that is done lets it
pass. -/
def takeTurn (answer : (q : Q) → σ → A q × σ) :
    Nat → List (Program A α) × σ → List (Program A α) × σ
  | _, ([], s) => ([], s)
  | 0, (done a :: rest, s) => (done a :: rest, s)
  | 0, (ask q next :: rest, s) => (next (answer q s).1 :: rest, (answer q s).2)
  | i + 1, (p :: rest, s) => (p :: (takeTurn answer i (rest, s)).1, (takeTurn answer i (rest, s)).2)

/-- The programs take turns in the given order. -/
def takeTurns (answer : (q : Q) → σ → A q × σ) (order : List Nat)
    (c : List (Program A α) × σ) : List (Program A α) × σ :=
  order.foldl (fun c i => takeTurn answer i c) c

theorem Turn.cons {answer : (q : Q) → σ → A q × σ} {c c' : List (Program A α) × σ}
    (p : Program A α) (h : Turn answer c c') :
    Turn answer (p :: c.1, c.2) (p :: c'.1, c'.2) := by
  cases h with
  | of before after q next s => exact .of (p :: before) after q next s

theorem turns_takeTurn (answer : (q : Q) → σ → A q × σ) (i : Nat) (programs : List (Program A α))
    (s : σ) : Turns answer (programs, s) (takeTurn answer i (programs, s)) := by
  induction programs generalizing i with
  | nil =>
      rw [takeTurn]
      exact .refl
  | cons p rest ih =>
      cases i with
      | zero =>
          cases p with
          | done a => exact .refl
          | ask q next => exact .single (.of [] rest q next s)
      | succ i =>
          rw [takeTurn]
          exact Relation.ReflTransGen.lift
            (fun c : List (Program A α) × σ => (p :: c.1, c.2)) (fun _ _ => Turn.cons p) _ _
            (ih i)

/-- **Turns in a given order are turns.** -/
theorem turns_takeTurns (answer : (q : Q) → σ → A q × σ) (order : List Nat)
    (c : List (Program A α) × σ) : Turns answer c (takeTurns answer order c) := by
  induction order generalizing c with
  | nil => exact .refl
  | cons i order ih => exact (turns_takeTurn answer i c.1 c.2).trans (ih _)

/-! ### Guarding an invariant -/

/-- The program keeps the invariant as the count grows, and its result is as promised, whatever
happens between its questions that keeps the invariant and does not lower the count. -/
inductive Guards (answer : (q : Q) → σ → A q × σ) (cost : Q → Nat) (Inv : Nat → σ → Prop)
    (Post : Nat → α → Prop) : Nat → Nat → Program A α → Prop where
  | done {budget n : Nat} {a : α} (post : Post n a) : Guards answer cost Inv Post budget n (.done a)
  | ask {budget n : Nat} {q : Q} {next : A q → Program A α}
      (afford : cost q ≤ budget)
      (keep : ∀ m s, n ≤ m → Inv m s → Inv (m + cost q) (answer q s).2)
      (rest : ∀ m s, n ≤ m → Inv m s →
        Guards answer cost Inv Post (budget - cost q) (m + cost q) (next (answer q s).1)) :
      Guards answer cost Inv Post budget n (.ask q next)

namespace Guards

variable {answer : (q : Q) → σ → A q × σ} {cost : Q → Nat} {Inv : Nat → σ → Prop}
  {Post : Nat → α → Prop}

/-- What holds of a program at a count holds at every later one. -/
theorem later (hPost : ∀ n m a, n ≤ m → Post n a → Post m a) {budget n m : Nat} (hnm : n ≤ m)
    {p : Program A α} (h : p.Guards answer cost Inv Post budget n) :
    p.Guards answer cost Inv Post budget m := by
  cases h with
  | done post => exact .done (hPost n m _ hnm post)
  | ask afford keep rest =>
      refine .ask afford ?_ ?_
      · intro k s hk hs
        exact keep k s (Nat.le_trans hnm hk) hs
      · intro k s hk hs
        exact rest k s (Nat.le_trans hnm hk) hs

/-- The programs and the state of the answerer after some turns: the invariant holds at some
count from `low` on, and every program guards it from there on within what is left of its
budget. -/
def Kept (answer : (q : Q) → σ → A q × σ) (cost : Q → Nat) (Inv : Nat → σ → Prop)
    (Post : Nat → α → Prop) (low total : Nat) (c : List (Program A α) × σ) : Prop :=
  ∃ (n : Nat) (jobs : List (Nat × Program A α)), low ≤ n ∧ n + (jobs.map Prod.fst).sum = total ∧
    jobs.map Prod.snd = c.1 ∧ Inv n c.2 ∧ ∀ job ∈ jobs, job.2.Guards answer cost Inv Post job.1 n

/-- What the programs guard is kept from the start. -/
theorem kept_start {programs : List (Program A α)} {budget : Nat}
    (hguard : ∀ p ∈ programs, p.Guards answer cost Inv Post budget 0) {s : σ} (hinv : Inv 0 s) :
    Kept answer cost Inv Post 0 (programs.length * budget) (programs, s) := by
  refine ⟨0, programs.map fun p => (budget, p), Nat.le_refl 0, ?_, ?_, hinv, ?_⟩
  · simp only [List.map_map, Function.comp_def, List.map_const', List.sum_replicate_nat,
      Nat.zero_add]
  · simp [Function.comp_def]
  · intro job hjob
    obtain ⟨p, hp, rfl⟩ := List.mem_map.1 hjob
    exact hguard p hp

/-- A turn keeps what the programs guard. -/
theorem turn (hPost : ∀ n m a, n ≤ m → Post n a → Post m a) {low total : Nat}
    {c c' : List (Program A α) × σ} (hc : Kept answer cost Inv Post low total c)
    (h : Turn answer c c') : Kept answer cost Inv Post low total c' := by
  obtain ⟨before, after, q, next, s⟩ := h
  obtain ⟨n, jobs, hlow, htotal, hjobs, hinv, hall⟩ := hc
  obtain ⟨front, rest, rfl, rfl, hrest⟩ := List.map_eq_append_iff.1 hjobs
  obtain ⟨⟨budget, p⟩, back, rfl, rfl, rfl⟩ := List.map_eq_cons_iff.1 hrest
  -- The program whose turn it is pays for its question; the others wait at a later count.
  cases hall (budget, Program.ask q next) (by simp) with
  | ask afford keep rest =>
      refine ⟨n + cost q, front ++ (budget - cost q, next (answer q s).1) :: back, by omega, ?_,
        by simp, keep n s (Nat.le_refl n) hinv, ?_⟩
      · simp only [List.map_append, List.map_cons, List.sum_append, List.sum_cons] at htotal ⊢
        omega
      · intro job hjob
        rcases List.mem_append.1 hjob with hfront | hback
        · exact later hPost (Nat.le_add_right n _) (hall job (by simp [hfront]))
        · rcases List.mem_cons.1 hback with rfl | hback
          · exact rest n s (Nat.le_refl n) hinv
          · exact later hPost (Nat.le_add_right n _) (hall job (by simp [hback]))

/-- Whatever the order of turns, the programs keep what they guard. -/
theorem turns (hPost : ∀ n m a, n ≤ m → Post n a → Post m a) {low total : Nat}
    {c c' : List (Program A α) × σ} (hc : Kept answer cost Inv Post low total c)
    (h : Turns answer c c') : Kept answer cost Inv Post low total c' := by
  induction h with
  | refl => exact hc
  | tail _ hturn ih => exact turn hPost ih hturn

/-- **At any two moments of a run the invariant holds, at counts within the budgets**, and the
later count is no smaller. -/
theorem between (hPost : ∀ n m a, n ≤ m → Post n a → Post m a) {programs : List (Program A α)}
    {budget : Nat} (hguard : ∀ p ∈ programs, p.Guards answer cost Inv Post budget 0) {s : σ}
    (hinv : Inv 0 s) {c c' : List (Program A α) × σ} (h : Turns answer (programs, s) c)
    (h' : Turns answer c c') :
    ∃ n n', n ≤ n' ∧ n' ≤ programs.length * budget ∧ Inv n c.2 ∧ Inv n' c'.2 := by
  obtain ⟨n, jobs, -, htotal, hjobs, hn, hall⟩ := turns hPost (kept_start hguard hinv) h
  -- From the first moment on, its count is the least that can follow.
  have hc : Kept answer cost Inv Post n (programs.length * budget) c :=
    ⟨n, jobs, Nat.le_refl n, htotal, hjobs, hn, hall⟩
  obtain ⟨n', jobs', hle, htotal', -, hn', -⟩ := turns hPost hc h'
  exact ⟨n, n', hle, by omega, hn, hn'⟩

/-- **When all programs have their results, the invariant holds at a count within the budgets, and
every result is as promised.** -/
theorem of_turns (hPost : ∀ n m a, n ≤ m → Post n a → Post m a) {programs : List (Program A α)}
    {budget : Nat} (hguard : ∀ p ∈ programs, p.Guards answer cost Inv Post budget 0) {s t : σ}
    (hinv : Inv 0 s) {results : List α}
    (h : Turns answer (programs, s) (results.map Program.done, t)) :
    ∃ n, n ≤ programs.length * budget ∧ Inv n t ∧ ∀ a ∈ results, Post n a := by
  obtain ⟨n, jobs, -, htotal, hjobs, hn, hall⟩ := turns hPost (kept_start hguard hinv) h
  -- A program that is done has nothing left to guard but what it promised.
  refine ⟨n, by omega, hn, fun a ha => ?_⟩
  have hmem : Program.done a ∈ jobs.map Prod.snd := hjobs ▸ List.mem_map_of_mem ha
  obtain ⟨⟨left, p⟩, hjob, rfl⟩ := List.mem_map.1 hmem
  cases hall _ hjob with
  | done post => exact post

end Guards

end CommandBot.Program
