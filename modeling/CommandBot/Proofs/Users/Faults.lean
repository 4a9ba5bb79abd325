/-
**A store that may fail.**

A request to the store may fail, and then it changes nothing.  The operations on records stop at a
failure, wherever it comes.  So whatever fails, an operation either leaves the store as it was, or
it makes a new record in one write, or it changes a record that was there in one write.

Main definitions:

* `CommandBot.Faults` — the failures that are to come;
* `CommandBot.Store.answerOrFail` — what a store with failures answers;
* `CommandBot.Store.Advances` — **what an operation may do to a store.**

Main results:

* `CommandBot.Users.run_find_cases`, `CommandBot.Users.run_writeFields_cases` — a read and a write
  among failures;
* `CommandBot.Users.get_advances`, `CommandBot.Users.set_advances`,
  `CommandBot.Users.recordPost_advances` — **each operation does one such thing at most.**
-/

import CommandBot.Proofs.Program.Exchanges
import CommandBot.Proofs.Users.Posts

set_option relaxedAutoImplicit false
set_option autoImplicit false

namespace CommandBot

/-! ### Failures -/

/-- What becomes of the requests to come, one after another: a failure with its detail, or none.
After the last of them nothing fails.

The detail is that of a backend error.  A store tells no other error: a missing hash is an empty
one, and whether a hash holds a record is not for the store to say.  What a store would come to that
answers otherwise is outside its contract, and not expressed here. -/
abbrev Faults : Type := List (Option String)

namespace Store

/-- **What a store with failures answers**: a request that fails changes nothing. -/
def answerOrFail (r : StoreRequest) (s : Store × Faults) : r.Answer × (Store × Faults) :=
  match s.2.head?.join with
  | none => ((answer r s.1).1, (answer r s.1).2, s.2.tail)
  | some detail => (r.fail (.backend detail), s.1, s.2.tail)

theorem answerOrFail_cases (r : StoreRequest) (s : Store) (faults : Faults) :
    answerOrFail r (s, faults) = ((answer r s).1, (answer r s).2, faults.tail) ∨
      ∃ detail, answerOrFail r (s, faults) = (r.fail (.backend detail), s, faults.tail) := by
  unfold answerOrFail
  split
  · exact .inl rfl
  · next detail _ => exact .inr ⟨detail, rfl⟩

/-- A read changes nothing, whether it fails or not. -/
theorem answerOrFail_getAll (key : String) (s : Store × Faults) :
    (answerOrFail (.getAll key) s).2.1 = s.1 := by
  obtain ⟨s, faults⟩ := s
  rcases answerOrFail_cases (.getAll key) s faults with h | ⟨detail, h⟩
  · rw [h]
    rfl
  · rw [h]

/-- **What an operation may do to a store**: nothing, make a new record of a user, or change a
record that is there. -/
inductive Advances (New : User → Prop) (Change : UserRecord → UserUpdate → Prop) (s : Store) :
    Store → Prop where
  | same : Advances New Change s s
  | made {user : User} (h : New user) (now : Timestamp) :
      Advances New Change s (s.write (userKey user.id) (UserUpdate.ofNewUser user now).fields)
  | changed {id : UInt64} {r : UserRecord} {u : UserUpdate} (hr : s.record id = .ok r)
      (h : Change r u) : Advances New Change s (s.write (userKey id) u.fields)

theorem Advances.mono {New New' : User → Prop} {Change Change' : UserRecord → UserUpdate → Prop}
    {s t : Store} (h : s.Advances New Change t) (hnew : ∀ user, New user → New' user)
    (hchange : ∀ r u, Change r u → Change' r u) : s.Advances New' Change' t := by
  cases h with
  | same => exact .same
  | made h now => exact .made (hnew _ h) now
  | changed hr h => exact .changed hr (hchange _ _ h)

end Store

/-! ### The operations -/

namespace Users

open Program Store

variable (s : Store) (faults : Faults)

theorem run_readHash_cases (id : UInt64) :
    (readHash id).run answerOrFail (s, faults) = (.ok (s.hash (userKey id)), s, faults.tail) ∨
      ∃ detail, (readHash id).run answerOrFail (s, faults) =
        (.error (.backend detail), s, faults.tail) :=
  answerOrFail_cases (.getAll (userKey id)) s faults

/-- A record is found as it is, or the first of the failures is met. -/
theorem run_find_answerOrFail (id : UInt64) :
    (find id).run answerOrFail (s, faults) =
      (faults.head?.join.elim (s.record id) fun detail => .error (.backend detail), s,
        faults.tail) := by
  have hread : (readHash id).run answerOrFail (s, faults) =
      answerOrFail (.getAll (userKey id)) (s, faults) := rfl
  rw [find, run_bind, hread]
  unfold answerOrFail
  dsimp only
  cases faults.head?.join with
  | none => rfl
  | some detail => rfl

theorem run_find_cases (id : UInt64) :
    (find id).run answerOrFail (s, faults) = (s.record id, s, faults.tail) ∨
      ∃ detail, (find id).run answerOrFail (s, faults) =
        (.error (.backend detail), s, faults.tail) := by
  rw [run_find_answerOrFail]
  cases faults.head?.join with
  | none => exact .inl rfl
  | some detail => exact .inr ⟨detail, rfl⟩

theorem run_writeFields_cases (id : UInt64) (fields : List (String × String)) :
    (writeFields id fields).run answerOrFail (s, faults) =
        (.ok (), s.write (userKey id) fields, faults.tail) ∨
      ∃ detail, (writeFields id fields).run answerOrFail (s, faults) =
        (.error (.backend detail), s, faults.tail) :=
  answerOrFail_cases (.setFields (userKey id) fields) s faults

theorem store_run_find (id : UInt64) : ((find id).run answerOrFail (s, faults)).2.1 = s := by
  rcases run_find_cases s faults id with h | ⟨detail, h⟩
  · rw [h]
  · rw [h]

theorem create_advances (user : User) (now : Timestamp) :
    s.Advances (· = user) (fun _ _ => False)
      ((create user now).run answerOrFail (s, faults)).2.1 := by
  rw [create, run_bind]
  rcases run_writeFields_cases s faults user.id (UserUpdate.ofNewUser user now).fields with
    h | ⟨detail, h⟩
  · rw [h]
    dsimp only
    rw [store_run_find]
    refine .made ?_ now
    rfl
  · rw [h]
    exact .same

/-- Of what begins with reading a hash only the rest can do anything. -/
theorem readHash_bind_advances {α : Type} {New : User → Prop}
    {Change : UserRecord → UserUpdate → Prop} {id : UInt64}
    {rest : Except StoreError Hash → Program StoreRequest.Answer α}
    (hread : ∀ faults, s.Advances New Change
      ((rest (.ok (s.hash (userKey id)))).run answerOrFail (s, faults)).2.1)
    (hfail : ∀ detail faults, s.Advances New Change
      ((rest (.error (.backend detail))).run answerOrFail (s, faults)).2.1) :
    s.Advances New Change (((readHash id).bind rest).run answerOrFail (s, faults)).2.1 := by
  rw [run_bind]
  rcases run_readHash_cases s faults id with h | ⟨detail, h⟩
  · rw [h]
    exact hread faults.tail
  · rw [h]
    exact hfail detail faults.tail

/-- Of what begins with finding a record only the rest can do anything. -/
theorem find_bind_advances {α : Type} {New : User → Prop}
    {Change : UserRecord → UserUpdate → Prop} {id : UInt64}
    {rest : Except StoreError UserRecord → Program StoreRequest.Answer α}
    (hread : ∀ faults, s.Advances New Change
      ((rest (s.record id)).run answerOrFail (s, faults)).2.1)
    (hfail : ∀ detail faults, s.Advances New Change
      ((rest (.error (.backend detail))).run answerOrFail (s, faults)).2.1) :
    s.Advances New Change (((find id).bind rest).run answerOrFail (s, faults)).2.1 := by
  rw [find, bind_assoc]
  exact readHash_bind_advances s faults hread hfail

/-- Getting a record makes one at most. -/
theorem get_advances (now : Timestamp) (user : User) (createMissing : Bool) :
    s.Advances (· = user) (fun _ _ => False)
      ((get now user createMissing).run answerOrFail (s, faults)).2.1 := by
  refine readHash_bind_advances s faults (fun faults => ?_) fun _ _ => .same
  dsimp only
  split
  · split
    · exact create_advances s faults user now
    · exact .same
  · exact .same

/-- Setting fields changes the user's record if there is one, or nothing. -/
theorem set_advances (id : UInt64) (u : UserUpdate) :
    s.Advances (fun _ => False) (fun r u' => s.record id = .ok r ∧ u' = u)
      ((set id u).run answerOrFail (s, faults)).2.1 := by
  refine find_bind_advances s faults (fun faults => ?_) fun _ _ => .same
  split
  · exact .same
  · next r hr =>
      split
      · exact .same
      · rcases run_writeFields_cases s faults id u.fields with h | ⟨detail, h⟩
        · rw [h]
          exact .changed hr ⟨hr, rfl⟩
        · rw [h]
          exact .same

/-- Counting a command writes the next count. -/
theorem countPost_advances (now : Timestamp) {user : User} {r : UserRecord}
    (hr : s.record user.id = .ok r) :
    s.Advances (fun _ => False) (fun r u => u = .ofPost user (nextCount r.posts) now)
      ((countPost now user r).run answerOrFail (s, faults)).2.1 := by
  have hset : s.Advances (fun _ => False) (fun r u => u = .ofPost user (nextCount r.posts) now)
      ((set user.id (.ofPost user (nextCount r.posts) now)).run answerOrFail (s, faults)).2.1 := by
    refine (set_advances s faults user.id _).mono (fun _ h => h) ?_
    rintro r' _ ⟨hr', rfl⟩
    rw [hr] at hr'
    cases hr'
    rfl
  rw [countPost, run_bind]
  split
  · exact hset
  · exact hset

/-- **Recording a command makes a record, or counts one command more in the record that is there, or
does nothing.** -/
theorem recordPost_advances (now : Timestamp) (user : User) :
    s.Advances (· = user) (fun r u => u = .ofPost user (nextCount r.posts) now)
      ((recordPost now user).run answerOrFail (s, faults)).2.1 := by
  refine find_bind_advances s faults (fun faults => ?_) fun _ _ => .same
  split
  · next r hr =>
      exact (countPost_advances s faults now hr).mono (fun _ h => h.elim) fun _ _ h => h
  · exact (get_advances s faults now user true).mono (fun _ h => h) fun _ _ h => h.elim
  · exact .same

end Users

end CommandBot
