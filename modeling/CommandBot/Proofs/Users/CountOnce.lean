/-
**A command is counted once or not at all.**

Recording a command asks the store three or four times, and each of these requests may fail.  Only
one of them writes, and what comes before it only reads.  So the store is left as it was, or it is
left with that one write, and the call has no record to show unless the write was made.

The call may also fail after it has written: a new record is read once more, and that read may fail
too.  So a failure does not say that nothing was counted.

Main definitions:

* `CommandBot.Hash.Sets` — a hash in which some fields were set and no others;
* `CommandBot.Users.Tried`, `CommandBot.Users.Tries` — what an operation comes to that can set some
  fields once;
* `CommandBot.Users.Counted` — **one command more was counted**;
* `CommandBot.Users.RecordsOnce` — what recording a command may come to.

Main results:

* `CommandBot.Users.recordPost_tries_of_ok`, `CommandBot.Users.recordPost_tries_of_notFound` — for a
  user with a record and for one without, recording a command tries one write;
* `CommandBot.Users.recordPost_counts_once` — **whatever fails, a command is counted once or not at
  all.**
-/

import CommandBot.Proofs.Users.Faults
import CommandBot.Proofs.Users.Writes

set_option relaxedAutoImplicit false
set_option autoImplicit false

namespace CommandBot

open Program

/-! ### Fields that were set -/

/-- A hash in which some fields were set to the given texts, and all others are as before. -/
def Hash.Sets (pairs : List (String × String)) (before after : Hash) : Prop :=
  (∀ pair ∈ pairs, after.get? pair.1 = some pair.2) ∧
    ∀ name, (∀ pair ∈ pairs, pair.1 ≠ name) → after.get? name = before.get? name

/-- Setting different fields sets each of them. -/
theorem Hash.sets_setAll {pairs : List (String × String)} (h : (pairs.map Prod.fst).Nodup)
    (before : Hash) : Sets pairs before (before.setAll pairs) := by
  constructor
  · rintro ⟨name, text⟩ hpair
    obtain ⟨first, last, rfl⟩ := List.append_of_mem hpair
    rw [List.map_append, List.map_cons] at h
    obtain ⟨-, htail, -⟩ := List.nodup_append.1 h
    refine Table.get?_setAll_of_last fun pair hlast hname => ?_
    exact (List.nodup_cons.1 htail).1 (List.mem_map.2 ⟨pair, hlast, hname⟩)
  · intro name hname
    exact Table.get?_setAll_of_forall_ne hname

namespace Users

open Store

/-! ### One write, or a failure -/

/-- The exchange in which some fields under a key were set. -/
def written (key : String) (fields : List (String × String)) : (r : StoreRequest) × r.Answer :=
  ⟨.setFields key fields, .ok ()⟩

/-- The exchange in which a request failed. -/
def refused (r : StoreRequest) (detail : String) : (r : StoreRequest) × r.Answer :=
  ⟨r, r.fail (.backend detail)⟩

/-- What an operation comes to that can set some fields once, by what it exchanged, its result and
the store after it: one of its requests failed and it did nothing, or it set the fields. -/
inductive Tried {α : Type} (s : Store) (key : String) (fields : List (String × String)) :
    List ((r : StoreRequest) × r.Answer) → Except StoreError α → Store → Prop where
  | failed {exchanges : List ((r : StoreRequest) × r.Answer)} {r : StoreRequest} {detail : String}
      (h : refused r detail ∈ exchanges) (e : StoreError) : Tried s key fields exchanges (.error e) s
  | made {exchanges : List ((r : StoreRequest) × r.Answer)} (h : written key fields ∈ exchanges)
      (result : Except StoreError α) : Tried s key fields exchanges result (s.write key fields)

section Trying

variable {α : Type} {s : Store} {key : String} {fields : List (String × String)}

theorem Tried.append_left {exchanges : List ((r : StoreRequest) × r.Answer)}
    {result : Except StoreError α} {t : Store} (h : Tried s key fields exchanges result t)
    (before : List ((r : StoreRequest) × r.Answer)) :
    Tried s key fields (before ++ exchanges) result t := by
  cases h with
  | failed h e => exact .failed (List.mem_append_right before h) e
  | made h => exact .made (List.mem_append_right before h) _

/-- Whatever fails, the operation fails or sets the fields. -/
def Tries (s : Store) (key : String) (fields : List (String × String)) (p : StoreTask α) : Prop :=
  ∀ faults, Tried s key fields (p.transcript answerOrFail (s, faults))
    (p.run answerOrFail (s, faults)).1 (p.run answerOrFail (s, faults)).2.1

/-- What begins with reading a hash goes on with it, or stops at a failure. -/
theorem readHash_bind_tries {id : UInt64} {rest : Except StoreError Hash → StoreTask α}
    (hread : Tries s key fields (rest (.ok (s.hash (userKey id)))))
    (hfail : ∀ detail, ∃ e, rest (.error (.backend detail)) = .done (.error e)) :
    Tries s key fields ((readHash id).bind rest) := by
  intro faults
  have hexchange : (readHash id).transcript answerOrFail (s, faults) =
      [⟨_, (answerOrFail (.getAll (userKey id)) (s, faults)).1⟩] := rfl
  rw [transcript_bind, run_bind, hexchange]
  rcases answerOrFail_cases (.getAll (userKey id)) s faults with h | ⟨detail, h⟩
  · have hrun : (readHash id).run answerOrFail (s, faults) =
        (.ok (s.hash (userKey id)), s, faults.tail) := h
    rw [hrun]
    exact (hread faults.tail).append_left _
  · have hrun : (readHash id).run answerOrFail (s, faults) =
        (.error (.backend detail), s, faults.tail) := h
    obtain ⟨e, he⟩ := hfail detail
    rw [hrun, h, he]
    exact .failed List.mem_cons_self e

/-- What begins with finding a record goes on with it, or stops at a failure. -/
theorem find_bind_tries {id : UInt64} {rest : Except StoreError UserRecord → StoreTask α}
    (hread : Tries s key fields (rest (s.record id)))
    (hfail : ∀ detail, ∃ e, rest (.error (.backend detail)) = .done (.error e)) :
    Tries s key fields ((find id).bind rest) := by
  rw [find, bind_assoc]
  exact readHash_bind_tries hread hfail

/-- What only reads leaves the store as it was, whatever fails. -/
theorem store_run_of_reads {p : StoreTask α} (hp : p.Asks (·.isWrite = false)) (s : Store)
    (faults : Faults) : (p.run answerOrFail (s, faults)).2.1 = s := by
  have hkeep : ∀ r : StoreRequest, r.isWrite = false → ∀ s,
      (answerOrFail r s).2.1 = s.1 := by
    intro r hr s
    cases r with
    | getAll key => exact answerOrFail_getAll key s
    | setFields key fields => cases hr
  exact hp.view_run hkeep (s, faults)

/-- A write after which nothing is written sets the fields or fails. -/
theorem writeFields_bind_tries {id : UInt64} {rest : Except StoreError Unit → StoreTask α}
    (hdone : (rest (.ok ())).Asks (·.isWrite = false))
    (hfail : ∀ detail, ∃ e, rest (.error (.backend detail)) = .done (.error e)) :
    Tries s (userKey id) fields ((writeFields id fields).bind rest) := by
  intro faults
  have hexchange : (writeFields id fields).transcript answerOrFail (s, faults) =
      [⟨_, (answerOrFail (.setFields (userKey id) fields) (s, faults)).1⟩] := rfl
  rw [transcript_bind, run_bind, hexchange]
  rcases answerOrFail_cases (.setFields (userKey id) fields) s faults with h | ⟨detail, h⟩
  · have hrun : (writeFields id fields).run answerOrFail (s, faults) =
        (.ok (), s.write (userKey id) fields, faults.tail) := h
    rw [h, hrun, store_run_of_reads hdone]
    exact .made List.mem_cons_self _
  · have hrun : (writeFields id fields).run answerOrFail (s, faults) =
        (.error (.backend detail), s, faults.tail) := h
    obtain ⟨e, he⟩ := hfail detail
    rw [h, hrun, he]
    exact .failed List.mem_cons_self e

end Trying

/-! ### Recording a command -/

section Recording

variable {s : Store} (now : Timestamp) {user : User}

/-- **For a user with a record the write counts one command more.** -/
theorem recordPost_tries_of_ok {r : UserRecord} (hr : s.record user.id = .ok r) :
    Tries s (userKey user.id) (UserUpdate.ofPost user (nextCount r.posts) now).fields
      (recordPost now user) := by
  refine find_bind_tries ?_ fun detail => ⟨_, rfl⟩
  rw [hr]
  simp only [countPost, set, bind_assoc]
  -- The record is read once more, to see that it is still there.
  refine find_bind_tries ?_ fun detail => ⟨_, rfl⟩
  rw [hr]
  simp only [fields_isEmpty_ofPost, Bool.false_eq_true, if_false]
  exact writeFields_bind_tries (.done _) fun detail => ⟨_, rfl⟩

/-- **For a user without a record the write makes one.** -/
theorem recordPost_tries_of_notFound (hr : s.record user.id = .error .notFound) :
    Tries s (userKey user.id) (UserUpdate.ofNewUser user now).fields (recordPost now user) := by
  refine find_bind_tries ?_ fun detail => ⟨_, rfl⟩
  rw [hr]
  refine readHash_bind_tries ?_ fun detail => ⟨_, rfl⟩
  dsimp only
  rw [ofHash_hash, hr]
  exact writeFields_bind_tries (find_reads user.id) fun detail => ⟨_, rfl⟩

/-- **A record that cannot be read is read once**, and then the call fails. -/
theorem recordPost_of_malformed {name text : String}
    (hr : s.record user.id = .error (.malformed name text)) (faults : Faults) :
    (recordPost now user).run answerOrFail (s, faults) =
        (.error (faults.head?.join.elim (.malformed name text) .backend), s, faults.tail) ∧
      writesOf ((recordPost now user).transcript answerOrFail (s, faults)) = [] := by
  have hfind := writesOf_of_reads (find_reads user.id)
    (runs_transcript answerOrFail (find user.id) (s, faults))
  rw [recordPost, run_bind, transcript_bind, run_find_answerOrFail, hr]
  cases faults.head?.join with
  | none => exact ⟨rfl, by simpa using hfind⟩
  | some detail => exact ⟨rfl, by simpa using hfind⟩

end Recording

/-! ### One count at most -/

/-- **One command more was counted**: some fields of the author's hash were set in one write, and
these are the fields that the record then shows. -/
structure Counted (s : Store) (now : Timestamp) (user : User)
    (exchanges : List ((r : StoreRequest) × r.Answer)) (t : Store) : Prop where
  made : ∃ fields, written (userKey user.id) fields ∈ exchanges ∧
    t = s.write (userKey user.id) fields
  /-- On a record the counter moves, up to the greatest count; the flag stays. -/
  known : ∀ r, s.record user.id = .ok r →
    Hash.Sets [("username", user.username),
        ("posts", (min (r.posts.toNat + 1) maxCount).repr), ("lastSeen", now.text)]
      (s.hash (userKey user.id)) (t.hash (userKey user.id))
  /-- A new record shows one command. -/
  unknown : s.record user.id = .error .notFound →
    Hash.Sets [("username", user.username), ("isBot", if user.bot then "1" else "0"),
        ("posts", "1"), ("lastSeen", now.text)]
      (s.hash (userKey user.id)) (t.hash (userKey user.id))
  readable : ¬ s.IsUnreadable user.id

/-- **What recording a command may come to**, by what it exchanged, its result and the store after
it. -/
structure RecordsOnce (s : Store) (faults : Faults) (now : Timestamp) (user : User)
    (exchanges : List ((r : StoreRequest) × r.Answer)) (result : Except StoreError UserRecord)
    (t : Store) : Prop where
  /-- One write is tried at most. -/
  once : (writesOf exchanges).length ≤ 1
  /-- The store is as it was, or the command was counted. -/
  effect : t = s ∨ Counted s now user exchanges t
  /-- There is no record to show unless the command was counted. -/
  shown : ∀ r, result = .ok r → Counted s now user exchanges t
  /-- It is counted unless a request fails or the record cannot be read. -/
  untroubled : ¬ s.IsUnreadable user.id → (∀ r detail, refused r detail ∉ exchanges) →
    Counted s now user exchanges t
  /-- A record that cannot be read is left alone, and that is what the call says unless the read
  failed. -/
  unreadable : ∀ name text, s.record user.id = .error (.malformed name text) →
    t = s ∧ writesOf exchanges = [] ∧
      result = .error (faults.head?.join.elim (.malformed name text) .backend)
  /-- Nobody else's hash changes. -/
  others : ∀ key, key ≠ userKey user.id → t.get? key = s.get? key

section Counting

variable {s : Store} {now : Timestamp} {user : User}
  {exchanges : List ((r : StoreRequest) × r.Answer)}

theorem counted_of_ok {r : UserRecord} (hr : s.record user.id = .ok r)
    (hmade : written (userKey user.id) (UserUpdate.ofPost user (nextCount r.posts) now).fields ∈
      exchanges) :
    Counted s now user exchanges
      (s.write (userKey user.id) (UserUpdate.ofPost user (nextCount r.posts) now).fields) := by
  refine ⟨⟨_, hmade, rfl⟩, fun r' hr' => ?_, fun hnone => ?_, not_isUnreadable_of_ok hr⟩
  · obtain rfl : r = r' := by simpa [hr] using hr'
    have hnames : ["username", "posts", "lastSeen"].Nodup := by decide
    rw [hash_write_self, ← toNat_nextCount]
    refine Hash.sets_setAll ?_ _
    exact hnames
  · rw [hr] at hnone
    cases hnone

theorem counted_of_notFound (hr : s.record user.id = .error .notFound)
    (hmade : written (userKey user.id) (UserUpdate.ofNewUser user now).fields ∈ exchanges) :
    Counted s now user exchanges
      (s.write (userKey user.id) (UserUpdate.ofNewUser user now).fields) := by
  refine ⟨⟨_, hmade, rfl⟩, fun r' hr' => ?_, fun _ => ?_, not_isUnreadable_of_notFound hr⟩
  · rw [hr] at hr'
    cases hr'
  · have hnames : ["username", "isBot", "posts", "lastSeen"].Nodup := by decide
    rw [hash_write_self]
    refine Hash.sets_setAll ?_ _
    exact hnames

/-- What tries to count a command, and writes once at most, comes to what it may. -/
theorem recordsOnce_of_tried {faults : Faults} {fields : List (String × String)}
    {result : Except StoreError UserRecord} {t : Store}
    (hreadable : ¬ s.IsUnreadable user.id) (honce : (writesOf exchanges).length ≤ 1)
    (hcounted : written (userKey user.id) fields ∈ exchanges →
      Counted s now user exchanges (s.write (userKey user.id) fields))
    (h : Tried s (userKey user.id) fields exchanges result t) :
    RecordsOnce s faults now user exchanges result t := by
  have hunreadable : ∀ name text, s.record user.id ≠ .error (.malformed name text) :=
    fun name text he => hreadable ⟨name, text, he⟩
  cases h with
  | failed hfailed e =>
      refine ⟨honce, .inl rfl, ?_, ?_, ?_, fun _ _ => rfl⟩
      · intro r hr
        cases hr
      · intro _ hall
        exact absurd hfailed (hall _ _)
      · intro name text he
        exact absurd he (hunreadable name text)
  | made hmade =>
      refine ⟨honce, .inr (hcounted hmade), fun _ _ => hcounted hmade,
        fun _ _ => hcounted hmade, ?_, ?_⟩
      · intro name text he
        exact absurd he (hunreadable name text)
      · intro key hkey
        exact get?_write_of_ne hkey.symm

end Counting

/-- **Whatever fails, a command is counted once or not at all.**  Recording it tries one write at
most.  The store is left as it was or with that write, and there is a record to show only if the
write was made.  Only a failure or a record that cannot be read keeps it from being made. -/
theorem recordPost_counts_once (s : Store) (faults : Faults) (now : Timestamp) (user : User) :
    RecordsOnce s faults now user ((recordPost now user).transcript answerOrFail (s, faults))
      ((recordPost now user).run answerOrFail (s, faults)).1
      ((recordPost now user).run answerOrFail (s, faults)).2.1 := by
  have honce := length_writesOf_le (recordPost_writes now user)
    (runs_transcript answerOrFail (recordPost now user) (s, faults))
  rcases s.record_cases user.id with ⟨r, hr⟩ | hr | ⟨name, text, hr⟩
  · exact recordsOnce_of_tried (not_isUnreadable_of_ok hr) honce (counted_of_ok hr)
      (recordPost_tries_of_ok now hr faults)
  · exact recordsOnce_of_tried (not_isUnreadable_of_notFound hr) honce (counted_of_notFound hr)
      (recordPost_tries_of_notFound now hr faults)
  · obtain ⟨hrun, hnone⟩ := recordPost_of_malformed now hr faults
    rw [hrun]
    refine ⟨honce, .inl rfl, ?_, ?_, ?_, fun _ _ => rfl⟩
    · intro r hshown
      cases hshown
    · intro hreadable
      exact absurd ⟨name, text, hr⟩ hreadable
    · intro name' text' he
      rw [hr] at he
      cases he
      exact ⟨rfl, hnone, rfl⟩

/-- A new record that was made and could not be read again: the call fails, and the command is
counted. -/
example : (recordPost .epoch ⟨7, "ann", false⟩).run answerOrFail
      (Table.empty, [none, none, none, some "closed"]) =
    (.error (.backend "closed"), Store.afterPost Table.empty .epoch ⟨7, "ann", false⟩, []) := by rfl

end Users

end CommandBot
