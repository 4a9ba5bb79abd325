/-
**Programs that keep to places of their own.**

The state of an answerer may fall apart into places: what it answers about one place depends on what
is there, and changes nothing anywhere else.  Programs that run beside each other, each at a place
of its own, then cannot notice each other.  Whatever the order of their turns, every program comes
to the result that it has alone, and leaves its place as it does alone.

Main definitions:

* `CommandBot.Program.Separates` — the state of an answerer falls apart into places;
* `CommandBot.Program.outcome` — the result of a program that runs alone, and what it leaves at its
  place;
* `CommandBot.Program.oneByOne` — the run of several programs, one after another.

Main results:

* `CommandBot.Program.Separates.outcome_congr` — what a program comes to depends on its place only;
* `CommandBot.Program.Separates.turn` — a turn of one program leaves every outcome as it was;
* `CommandBot.Program.Separates.of_turns` — **in every order of turns each program comes to its own
  outcome**;
* `CommandBot.Program.turns_oneByOne` — whatever turns were taken, the rest can be run one by one.
-/

import CommandBot.Proofs.Program.Exchanges
import CommandBot.Proofs.Program.Interleaving
import Mathlib.Data.List.Nodup

set_option relaxedAutoImplicit false
set_option autoImplicit false

namespace CommandBot.Program

variable {Q : Type} {A : Q → Type} {α σ K τ : Type}

/-! ### One after another -/

/-- The results of several programs that run one after another, and the state after the last. -/
def oneByOne (answer : (q : Q) → σ → A q × σ) : List (Program A α) → σ → List α × σ
  | [], s => ([], s)
  | p :: rest, s =>
      ((p.run answer s).1 :: (oneByOne answer rest (p.run answer s).2).1,
        (oneByOne answer rest (p.run answer s).2).2)

/-- A program may take all of its turns at once. -/
theorem turns_run (answer : (q : Q) → σ → A q × σ) (before after : List (Program A α))
    (p : Program A α) (s : σ) :
    Turns answer (before ++ p :: after, s)
      (before ++ done (p.run answer s).1 :: after, (p.run answer s).2) := by
  induction p generalizing s with
  | done a => exact .refl
  | ask q next ih => exact .head (.of before after q next s) (ih (answer q s).1 (answer q s).2)

/-- **Programs that run one after another take turns.** -/
theorem turns_oneByOne (answer : (q : Q) → σ → A q × σ) (programs : List (Program A α)) (s : σ) :
    Turns answer (programs, s)
      ((oneByOne answer programs s).1.map done, (oneByOne answer programs s).2) := by
  induction programs generalizing s with
  | nil => exact .refl
  | cons p rest ih =>
      refine (turns_run answer [] rest p s).trans ?_
      exact Relation.ReflTransGen.lift
        (fun c : List (Program A α) × σ => (done (p.run answer s).1 :: c.1, c.2))
        (fun _ _ => Turn.cons _) _ _ (ih (p.run answer s).2)

/-! ### Places -/

/-- The state of an answerer falls apart into places.  Each question is about one of them: its
answer and what it leaves there depend on what is there, and all other places stay as they are. -/
structure Separates (answer : (q : Q) → σ → A q × σ) (place : Q → K) (view : σ → K → τ) :
    Prop where
  /-- A question changes no other place. -/
  frame : ∀ q s k, place q ≠ k → view (answer q s).2 k = view s k
  /-- The answer depends on the place only. -/
  answer_congr : ∀ q s s', view s (place q) = view s' (place q) → (answer q s).1 = (answer q s').1
  /-- So does what the place holds afterwards. -/
  view_congr : ∀ q s s', view s (place q) = view s' (place q) →
    view (answer q s).2 (place q) = view (answer q s').2 (place q)

/-- The result of a program that runs alone, and what it leaves at its place. -/
def outcome (answer : (q : Q) → σ → A q × σ) (view : σ → K → τ) (s : σ)
    (job : K × Program A α) : α × τ :=
  ((job.2.run answer s).1, view (job.2.run answer s).2 job.1)

/-- Programs that are done have their results, and have left their places as they are. -/
theorem outcomes_of_done {answer : (q : Q) → σ → A q × σ} {view : σ → K → τ} {t : σ}
    {jobs : List (K × Program A α)} {results : List α}
    (h : jobs.map Prod.snd = results.map done) :
    jobs.map (outcome answer view t) = results.zip ((jobs.map Prod.fst).map (view t)) := by
  induction jobs generalizing results with
  | nil =>
      cases results with
      | nil => rfl
      | cons a results => cases h
  | cons job jobs ih =>
      cases results with
      | nil => cases h
      | cons a results =>
          simp only [List.map_cons, List.cons.injEq] at h
          obtain ⟨k, p⟩ := job
          obtain ⟨rfl, hrest⟩ := h
          simp only [List.map_cons, List.zip_cons_cons, ih hrest]
          rfl

/-- Programs that keep to places of their own, no two of them to the same. -/
structure Apart (place : Q → K) (jobs : List (K × Program A α)) : Prop where
  /-- Each program asks about its place only. -/
  asks : ∀ job ∈ jobs, job.2.Asks fun q => place q = job.1
  /-- Different programs have different places. -/
  nodup : (jobs.map Prod.fst).Nodup

namespace Separates

variable {answer : (q : Q) → σ → A q × σ} {place : Q → K} {view : σ → K → τ}

/-- **What a program comes to depends on its place only.** -/
theorem outcome_congr (h : Separates answer place view) {k : K} {p : Program A α}
    (hp : p.Asks fun q => place q = k) {s s' : σ} (hs : view s k = view s' k) :
    outcome answer view s (k, p) = outcome answer view s' (k, p) := by
  induction hp generalizing s s' with
  | done a => exact Prod.ext rfl hs
  | @ask q next first rest ih =>
      subst first
      have hanswer := h.answer_congr q s s' hs
      have hview := h.view_congr q s s' hs
      simp only [outcome, run_ask] at ih ⊢
      rw [hanswer]
      exact ih (answer q s').1 hview

/-- The programs and the state after some turns: each program is still at its place, what it will
come to has not changed, and the places of nobody are as they were at the start. -/
def Kept (answer : (q : Q) → σ → A q × σ) (place : Q → K) (view : σ → K → τ) (start : σ)
    (jobs : List (K × Program A α)) (c : List (Program A α) × σ) : Prop :=
  ∃ now : List (K × Program A α), now.map Prod.snd = c.1 ∧ now.map Prod.fst = jobs.map Prod.fst ∧
    (∀ job ∈ now, job.2.Asks fun q => place q = job.1) ∧
    now.map (outcome answer view c.2) = jobs.map (outcome answer view start) ∧
    ∀ k, k ∉ jobs.map Prod.fst → view c.2 k = view start k

/-- A turn of one program is not noticed by the programs at other places. -/
theorem outcome_answer_of_ne (h : Separates answer place view) {q : Q} {job : K × Program A α}
    (hjob : job.2.Asks fun q => place q = job.1) (hne : place q ≠ job.1) (s : σ) :
    outcome answer view (answer q s).2 job = outcome answer view s job :=
  h.outcome_congr hjob (h.frame q s job.1 hne)

/-- **A turn of one program leaves every outcome as it was.** -/
theorem turn (h : Separates answer place view) {start : σ} {jobs : List (K × Program A α)}
    (hnodup : (jobs.map Prod.fst).Nodup) {c c' : List (Program A α) × σ}
    (hc : Kept answer place view start jobs c) (hturn : Turn answer c c') :
    Kept answer place view start jobs c' := by
  obtain ⟨before, after, q, next, s⟩ := hturn
  obtain ⟨now, hnow, hplaces, hasks, houtcomes, hrest⟩ := hc
  obtain ⟨front, others, rfl, rfl, hothers⟩ := List.map_eq_append_iff.1 hnow
  obtain ⟨⟨k, p⟩, back, rfl, rfl, rfl⟩ := List.map_eq_cons_iff.1 hothers
  -- The program whose turn it is asks about its own place and goes on at that place.
  obtain ⟨rfl, hgoesOn⟩ : place q = k ∧ ∀ answer, (next answer).Asks fun q => place q = k := by
    cases hasks (k, ask q next) (by simp) with
    | ask first rest => exact ⟨first, rest⟩
  have hfront : ∀ job ∈ front, job ∈ front ++ (place q, ask q next) :: back := by
    intro job hjob
    exact List.mem_append_left _ hjob
  have hback : ∀ job ∈ back, job ∈ front ++ (place q, ask q next) :: back := by
    intro job hjob
    exact List.mem_append_right _ (List.mem_cons_of_mem _ hjob)
  -- The others are elsewhere.
  have hdistinct : place q ∉ (front ++ back).map Prod.fst := by
    rw [← hplaces, List.map_append, List.map_cons, List.nodup_middle, List.nodup_cons,
      ← List.map_append] at hnodup
    exact hnodup.1
  have hne : ∀ job ∈ front ++ back, place q ≠ job.1 := by
    intro job hjob heq
    exact hdistinct (heq ▸ List.mem_map_of_mem hjob)
  refine ⟨front ++ (place q, next (answer q s).1) :: back, by simp, by simpa using hplaces, ?_, ?_,
    ?_⟩
  · intro job hjob
    rcases List.mem_append.1 hjob with hjob | hjob
    · exact hasks job (hfront job hjob)
    · rcases List.mem_cons.1 hjob with rfl | hjob
      · exact hgoesOn _
      · exact hasks job (hback job hjob)
  · rw [← houtcomes, List.map_append, List.map_append, List.map_cons, List.map_cons]
    congr 1
    · refine List.map_congr_left fun job hjob => ?_
      exact h.outcome_answer_of_ne (hasks job (hfront job hjob))
        (hne job (List.mem_append_left _ hjob)) s
    · congr 1
      refine List.map_congr_left fun job hjob => ?_
      exact h.outcome_answer_of_ne (hasks job (hback job hjob))
        (hne job (List.mem_append_right _ hjob)) s
  · intro k hk
    rw [← hrest k hk]
    refine h.frame q s k ?_
    rintro rfl
    exact hk (hplaces ▸ by simp)

/-- Whatever the order of turns, every outcome stays as it was at the start. -/
theorem turns (h : Separates answer place view) {start : σ} {jobs : List (K × Program A α)}
    (hjobs : Apart place jobs) {c : List (Program A α) × σ}
    (hturns : Turns answer (jobs.map Prod.snd, start) c) :
    Kept answer place view start jobs c := by
  induction hturns with
  | refl => exact ⟨jobs, rfl, rfl, hjobs.asks, rfl, fun _ _ => rfl⟩
  | tail _ hturn ih => exact h.turn hjobs.nodup ih hturn

/-- **In every order of turns each program comes to its own outcome**, and the places of nobody stay
as they are. -/
theorem of_turns (h : Separates answer place view) {start t : σ} {jobs : List (K × Program A α)}
    (hjobs : Apart place jobs) {results : List α}
    (hturns : Turns answer (jobs.map Prod.snd, start) (results.map done, t)) :
    results = jobs.map (fun job => (outcome answer view start job).1) ∧
      (∀ job ∈ jobs, view t job.1 = (outcome answer view start job).2) ∧
        ∀ k, k ∉ jobs.map Prod.fst → view t k = view start k := by
  obtain ⟨now, hnow, hplaces, -, houtcomes, hrest⟩ := h.turns hjobs hturns
  rw [outcomes_of_done hnow, hplaces] at houtcomes
  have hlength : results.length = ((jobs.map Prod.fst).map (view t)).length := by
    rw [List.length_map, ← hplaces, List.length_map, ← List.length_map (f := Prod.snd), hnow,
      List.length_map]
  refine ⟨?_, ?_, hrest⟩
  · have hfst := congrArg (List.map Prod.fst) houtcomes
    rw [List.map_fst_zip (Nat.le_of_eq hlength), List.map_map] at hfst
    exact hfst
  · have hsnd := congrArg (List.map Prod.snd) houtcomes
    rw [List.map_snd_zip (Nat.le_of_eq hlength.symm), List.map_map, List.map_map] at hsnd
    exact List.map_inj_left.1 hsnd

end Separates

end CommandBot.Program
