/-
**A store that fails on demand, seen from a program.**

What is planned for a store decides which of its requests fail, and no more.  Without faults a
program has the result and leaves the hashes that it has and leaves on a faultless store.  With
faults an operation on the record of a user still reaches no hash but that user's, even where a
fault makes a hash vanish.  And the numbers of requests that a rehearsal reports are the numbers of
the requests that were made.

Main definitions:

* `CommandBot.Rehearsal.FaultyStore.requests`, `CommandBot.Rehearsal.FaultyStore.asked` — the numbers
  of requests that a store got and that were exchanged.

Main results:

* `CommandBot.Rehearsal.FaultyStore.run_of_no_faults` — **without faults it is the faultless store**;
* `CommandBot.Rehearsal.FaultyStore.get?_run_of_asks` — **no fault reaches another key**;
* `CommandBot.Rehearsal.FaultyStore.requests_run` — what is counted is what was asked;
* `CommandBot.Rehearsal.FaultyStore.writes_recordPost_le` — recording a command tries one write at
  most, whatever is planted.
-/

import CommandBot.Proofs.Users.Independence
import CommandBot.Proofs.Users.Writes
import CommandBot.Rehearsal.FaultyStore

set_option relaxedAutoImplicit false
set_option autoImplicit false

namespace CommandBot.Rehearsal.FaultyStore

open Program Users

variable {α : Type} {p : Program StoreRequest.Answer α} {s : FaultyStore} {id : UInt64}
  {key : String}

/-! ### Without faults -/

/-- **Without faults it is the faultless store.** -/
theorem answer_of_no_faults (h : s.faults = []) (r : StoreRequest) :
    (answer r s).1 = (Store.answer r s.hashes).1 ∧
      (answer r s).2.hashes = (Store.answer r s.hashes).2 ∧ (answer r s).2.faults = [] := by
  simp [answer, h, answerWith]

/-- **A program comes to what it comes to on a faultless store.** -/
theorem run_of_no_faults (p : Program StoreRequest.Answer α) (h : s.faults = []) :
    (p.run answer s).1 = (p.run Store.answer s.hashes).1 ∧
      (p.run answer s).2.hashes = (p.run Store.answer s.hashes).2 := by
  induction p generalizing s with
  | done a => exact ⟨rfl, rfl⟩
  | ask r next ih =>
      obtain ⟨hanswer, hhashes, hfaults⟩ := answer_of_no_faults h r
      rw [run_ask, run_ask, ← hanswer, ← hhashes]
      exact ih _ hfaults

/-! ### Keys -/

/-- A request reaches no other key, whatever it meets with. -/
theorem get?_answerWith_of_ne {r : StoreRequest} (h : r.key ≠ key) (effect : Option Effect)
    (hashes : Store) : (answerWith effect r hashes).2.get? key = hashes.get? key := by
  have hanswer : (Store.answer r hashes).2.get? key = hashes.get? key :=
    Store.separates.frame r hashes key h
  cases effect with
  | none => exact hanswer
  | some effect =>
      cases effect with
      | refuse => rfl
      | vanish =>
          rw [answerWith, Table.get?_erase, if_neg h]
          exact hanswer

/-- **No fault reaches another key.** -/
theorem get?_run_of_asks (hp : p.Asks (IsAbout id)) (h : userKey id ≠ key) (s : FaultyStore) :
    (p.run answer s).2.hashes.get? key = s.hashes.get? key := by
  let view : FaultyStore → Option Hash := fun s => s.hashes.get? key
  have hkeep : ∀ r, IsAbout id r → ∀ s, view (answer r s).2 = view s := fun r hr s =>
    get?_answerWith_of_ne (fun hkey => h (hr.symm.trans hkey)) _ s.hashes
  exact Asks.view_run hkeep hp s

/-! ### Numbers of requests -/

/-- The number of requests of a kind that the store got. -/
def requests (s : FaultyStore) : Access → Nat
  | .read => s.reads
  | .write => s.writes

/-- The number of requests of a kind among what was exchanged. -/
def asked (access : Access) (exchanges : List ((r : StoreRequest) × r.Answer)) : Nat :=
  exchanges.countP fun x => Access.ofRequest x.1 = access

theorem requests_answer (access : Access) (r : StoreRequest) (s : FaultyStore) :
    (answer r s).2.requests access =
      s.requests access + if Access.ofRequest r = access then 1 else 0 := by
  cases access with
  | read => cases r <;> rfl
  | write => cases r <;> rfl

/-- **What is counted is what was asked.** -/
theorem requests_run (access : Access) (p : Program StoreRequest.Answer α) (s : FaultyStore) :
    (p.run answer s).2.requests access =
      s.requests access + asked access (p.transcript answer s) := by
  induction p generalizing s with
  | done a => rfl
  | ask r next ih =>
      rw [run_ask, ih, requests_answer, transcript_ask, asked, asked, List.countP_cons]
      simp only [decide_eq_true_eq]
      omega

theorem asked_write (exchanges : List ((r : StoreRequest) × r.Answer)) :
    asked .write exchanges = (writesOf exchanges).length := by
  rw [writesOf, ← List.countP_eq_length_filter, List.countP_map, asked]
  refine List.countP_congr fun x _ => ?_
  obtain ⟨r, a⟩ := x
  cases r with
  | getAll key => simp [Access.ofRequest, StoreRequest.isWrite]
  | setFields key fields => simp [Access.ofRequest, StoreRequest.isWrite]

/-- **Recording a command tries one write at most**, whatever is planted. -/
theorem writes_recordPost_le (now : Timestamp) (user : User) (s : FaultyStore) :
    ((recordPost now user).run answer s).2.writes ≤ s.writes + 1 := by
  have hcount := requests_run .write (recordPost now user) s
  have hone := length_writesOf_le (recordPost_writes now user)
    (runs_transcript answer (recordPost now user) s)
  rw [asked_write] at hcount
  simp only [requests] at hcount
  omega

end CommandBot.Rehearsal.FaultyStore
