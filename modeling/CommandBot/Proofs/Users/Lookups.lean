/-
**Looking for a record.**

On a store without faults a look-up tells what is there.  It writes only to make the record of a
user who has none, and then it sets all fields of a record at once, whatever was left in the hash;
so what it has made can be read, is there for every later look-up, and is not made again.  Recording
a command tells what it has written, although it does not read a known user's record again.

Main definitions:

* `CommandBot.Users.LeavesAlone` — an operation that writes nothing;
* `CommandBot.Users.Lookup` — the operations that look for a record;
* `CommandBot.Users.afterLookups` — the store after some of them;
* `CommandBot.Users.CreatesOnce` — **what looking for a user does who may be missing.**

Main results:

* `CommandBot.Users.get_of_known`, `CommandBot.Users.get_of_unknown` — looking for a user who has a
  hash, and for one who has none;
* `CommandBot.Users.run_recordPost_eq` — recording a command tells the record that it leaves;
* `CommandBot.Users.told_is_stored` — **what a call tells is what is stored**;
* `CommandBot.Users.record_afterLookups` — look-ups change no record;
* `CommandBot.Users.get_creates_once` — **a record is made once, and only for a missing user.**
-/

import CommandBot.Proofs.Time.Rfc3339
import CommandBot.Proofs.Users.Posts
import CommandBot.Proofs.Users.Writes

set_option relaxedAutoImplicit false
set_option autoImplicit false

namespace CommandBot.Users

open Program Store

/-! ### Operations that write nothing -/

/-- An operation that asks for no write, and leaves the store as it was. -/
def LeavesAlone {α : Type} (p : StoreTask α) (s : Store) : Prop :=
  writesOf (p.transcript answer s) = [] ∧ (p.run answer s).2 = s

/-- What only reads writes nothing. -/
theorem leavesAlone_of_reads {α : Type} {p : StoreTask α} (hp : p.Asks (·.isWrite = false))
    (s : Store) : LeavesAlone p s := by
  refine ⟨writesOf_of_reads hp (runs_transcript answer p s), ?_⟩
  have hkeep : ∀ r : StoreRequest, r.isWrite = false → ∀ s, id (answer r s).2 = id s := by
    intro r hr s
    cases r with
    | getAll key => rfl
    | setFields key fields => cases hr
  exact hp.view_run hkeep s

/-! ### One look-up -/

section Getting

variable {s : Store} {user : User} (now : Timestamp)

/-- **Looking for a user who has a hash** tells what is in it, and writes nothing. -/
theorem get_of_known (h : s.record user.id ≠ .error .notFound) (createMissing : Bool) :
    (get now user createMissing).run answer s = (s.record user.id, s) ∧
      LeavesAlone (get now user createMissing) s := by
  have hread := writesOf_of_reads (readHash_reads user.id)
    (runs_transcript answer (readHash user.id) s)
  unfold LeavesAlone
  rw [get, run_bind, transcript_bind, run_readHash]
  dsimp only
  rw [ofHash_hash]
  split
  · next hnone => exact absurd hnone h
  · exact ⟨rfl, by simpa using hread, rfl⟩

/-- **Looking for a user who has none** makes a record and reads it, or tells that there is none. -/
theorem get_of_unknown (h : s.record user.id = .error .notFound) :
    (get now user true).run answer s =
        ((s.afterPost now user).record user.id, s.afterPost now user) ∧
      writesOf ((get now user true).transcript answer s) =
        [.setFields (userKey user.id) (UserUpdate.ofNewUser user now).fields] ∧
      (get now user false).run answer s = (s.record user.id, s) := by
  rw [afterPost_of_notFound h]
  simp only [get, create, run_bind, transcript_bind, run_find, run_readHash, ofHash_hash, h,
    if_true, Bool.false_eq_true, if_false, run_writeFields, run_done, true_and, and_true]
  rfl

/-- For a user with a record the call tells what it has written, without reading it. -/
theorem run_recordPost_of_ok {r : UserRecord} (hr : s.record user.id = .ok r) :
    (recordPost now user).run answer s =
      (.ok { r with
        username := user.username, posts := nextCount r.posts, lastSeen := some now },
        s.afterPost now user) := by
  rw [afterPost_of_ok hr]
  simp only [recordPost, countPost, set, run_bind, run_find, hr, fields_isEmpty_ofPost,
    Bool.false_eq_true, if_false, run_writeFields, run_done]

/-- **Recording a command tells the record that it leaves.** -/
theorem run_recordPost_eq (hname : user.username ≠ "") (hnow : now.HasPlainYear) :
    (recordPost now user).run answer s =
      ((s.afterPost now user).record user.id, s.afterPost now user) := by
  have hread : Timestamp.read? now.text = some now := Timestamp.read?_text hnow
  rcases s.record_cases user.id with ⟨r, hr⟩ | hr | hr
  · have hafter := UserRecord.ofHash_post hr hname (nextCount r.posts) now
    rw [← hash_write_self, hread] at hafter
    rw [run_recordPost_of_ok now hr, afterPost_of_ok hr, record, hafter]
  · obtain ⟨hrun, -, -⟩ := get_of_unknown now hr
    rw [← hrun, recordPost, run_bind, run_find, hr]
  · rw [afterPost_of_isUnreadable hr]
    obtain ⟨name, text, hr⟩ := hr
    simp only [recordPost, run_bind, run_find, hr, run_done]

end Getting

/-! ### What a call tells -/

/-- **What a call tells is what is stored**: finding the record right after it tells the same, and
changes nothing.  In particular the record that is found is the one that the call showed. -/
theorem told_is_stored (s : Store) {now : Timestamp} {user : User} (hname : user.username ≠ "")
    (hnow : now.HasPlainYear) :
    (∀ result t, (recordPost now user).run answer s = (result, t) →
      (find user.id).run answer t = (result, t)) ∧
    ∀ createMissing result t, (get now user createMissing).run answer s = (result, t) →
      (find user.id).run answer t = (result, t) := by
  constructor
  · intro result t h
    rw [run_recordPost_eq now hname hnow] at h
    cases h
    exact run_find _ user.id
  · intro createMissing result t h
    by_cases hnone : s.record user.id = .error .notFound
    · obtain ⟨hmade, -, htold⟩ := get_of_unknown now hnone
      cases createMissing with
      | true =>
          rw [hmade] at h
          cases h
          exact run_find _ user.id
      | false =>
          rw [htold] at h
          cases h
          exact run_find _ user.id
    · rw [(get_of_known now hnone createMissing).1] at h
      cases h
      exact run_find _ user.id

/-- A store with the record of one user, whose counter is written as a given text. -/
def countedStore (posts : String) : Store :=
  ⟨[("user:7", ⟨[("posts", posts), ("username", "ann"), ("isBot", "true")]⟩)]⟩

/-- The record of that user after a command under another name. -/
def countedRecord (posts : UInt64) : UserRecord :=
  ⟨7, "anna", true, posts, some .leapSecond⟩

theorem run_recordPost_countedStore {posts : String} {n : UInt64}
    (h : UserRecord.readPosts (some posts) = .ok n) :
    (recordPost .leapSecond ⟨7, "anna", false⟩).run answer (countedStore posts) =
      (.ok (countedRecord (nextCount n)),
        (countedStore posts).afterPost .leapSecond ⟨7, "anna", false⟩) := by
  have hname : "ann" ≠ "" := by decide
  have hrecord : (countedStore posts).record 7 = .ok ⟨7, "ann", true, n, none⟩ :=
    UserRecord.ofHash_eq_ok_iff.2 ⟨rfl, rfl, hname, rfl, h, rfl⟩
  exact @run_recordPost_of_ok (countedStore posts) ⟨7, "anna", false⟩ .leapSecond _ hrecord

/-- A counter that moves, and one that cannot. -/
theorem told_is_stored_countedStore :
    "anna" ≠ "" ∧ Timestamp.leapSecond.HasPlainYear ∧
    (∃ t, (recordPost .leapSecond ⟨7, "anna", false⟩).run answer (countedStore "41") =
        (.ok (countedRecord 42), t) ∧
      (find 7).run answer t = (.ok (countedRecord 42), t)) ∧
    ∃ t, (recordPost .leapSecond ⟨7, "anna", false⟩).run answer
        (countedStore "+18446744073709551615") =
          (.ok (countedRecord 18446744073709551615), t) ∧
      (find 7).run answer t = (.ok (countedRecord 18446744073709551615), t) := by
  have hname : "anna" ≠ "" := by decide
  have hnow : Timestamp.leapSecond.HasPlainYear := by decide
  have hmoving : UserRecord.readPosts (some "41") = .ok 41 := by cbv
  have hgreatest : UserRecord.readPosts (some "+18446744073709551615") =
      .ok 18446744073709551615 := by cbv
  obtain ⟨htold, -⟩ :=
    @told_is_stored (countedStore "41") .leapSecond ⟨7, "anna", false⟩ hname hnow
  obtain ⟨htold', -⟩ :=
    @told_is_stored (countedStore "+18446744073709551615") .leapSecond ⟨7, "anna", false⟩ hname hnow
  have hrun := run_recordPost_countedStore hmoving
  have hrun' := run_recordPost_countedStore hgreatest
  have hnext : nextCount 41 = 42 := by decide
  have hnext' : nextCount 18446744073709551615 = 18446744073709551615 := by decide
  rw [hnext] at hrun
  rw [hnext'] at hrun'
  exact ⟨hname, hnow, ⟨_, hrun, htold _ _ hrun⟩, _, hrun', htold' _ _ hrun'⟩

/-! ### Look-ups one after another -/

/-- An operation that looks for a record. -/
inductive Lookup where
  | find (id : UInt64)
  | get (now : Timestamp) (user : User) (createMissing : Bool)
deriving DecidableEq, Repr

/-- The user who is looked for. -/
def Lookup.id : Lookup → UInt64
  | find id => id
  | get _ user _ => user.id

/-- The operation itself. -/
def Lookup.program : Lookup → StoreTask UserRecord
  | find id => Users.find id
  | get now user createMissing => Users.get now user createMissing

/-- The store after some look-ups, of any users. -/
def afterLookups (lookups : List Lookup) (s : Store) : Store :=
  lookups.foldl (fun s lookup => (lookup.program.run answer s).2) s

section Looking

variable {s : Store} {r : UserRecord}

/-- A record that is there is told by every look-up, and none writes. -/
theorem Lookup.of_record (lookup : Lookup) (hr : s.record lookup.id = .ok r) :
    lookup.program.run answer s = (.ok r, s) ∧ LeavesAlone lookup.program s := by
  cases lookup with
  | find id =>
      have hrun : (Users.find id).run answer s = (.ok r, s) := by
        rw [run_find]
        exact congrArg (·, s) hr
      exact ⟨hrun, leavesAlone_of_reads (find_reads id) s⟩
  | get now user createMissing =>
      have hr : s.record user.id = .ok r := hr
      have hknown : s.record user.id ≠ .error .notFound := by
        rw [hr]
        exact nofun
      obtain ⟨hrun, hleaves⟩ := get_of_known now hknown createMissing
      rw [hr] at hrun
      exact ⟨hrun, hleaves⟩

/-- A look-up touches no key but that of the user who is looked for. -/
theorem Lookup.get?_after {lookup : Lookup} {key : String} (h : userKey lookup.id ≠ key) :
    (lookup.program.run answer s).2.get? key = s.get? key := by
  cases lookup with
  | find id => rfl
  | get now user createMissing =>
      by_cases hnone : s.record user.id = .error .notFound
      · obtain ⟨hmade, -, htold⟩ := get_of_unknown now hnone
        cases createMissing with
        | true =>
            simp only [program, hmade]
            exact get?_afterPost_of_ne h
        | false => simp only [program, htold]
      · simp only [program, (get_of_known now hnone createMissing).1]

/-- **Look-ups change no record.** -/
theorem record_afterLookups {id : UInt64} (hr : s.record id = .ok r) (lookups : List Lookup) :
    (afterLookups lookups s).record id = .ok r := by
  induction lookups generalizing s with
  | nil => exact hr
  | cons lookup rest ih =>
      refine ih ?_
      by_cases hid : lookup.id = id
      · subst hid
        dsimp only
        rw [(lookup.of_record hr).1]
        exact hr
      · rw [← hr]
        exact record_congr (Lookup.get?_after fun hkey => hid (userKey_injective hkey))

end Looking

/-! ### Making a record -/

/-- A user is missing whose hash has no name or an empty one. -/
theorem record_eq_notFound_iff {s : Store} {id : UInt64} :
    s.record id = .error .notFound ↔ (s.hash (userKey id)).get? "username" = none ∨
      (s.hash (userKey id)).get? "username" = some "" := by
  rw [record, UserRecord.ofHash_eq_notFound_iff, UserRecord.usernameField]
  cases (s.hash (userKey id)).get? "username" with
  | none => simp
  | some name => simp

/-- **What looking for a user does who may be missing.** -/
structure CreatesOnce (s : Store) (now : Timestamp) (user : User) : Prop where
  /-- There is a write if and only if the user has no name in the store. -/
  writes_iff : writesOf ((get now user true).transcript answer s) ≠ [] ↔
    (s.hash (userKey user.id)).get? "username" = none ∨
      (s.hash (userKey user.id)).get? "username" = some ""
  /-- A missing user gets a record in one write, and it is the one that is told from then on,
  however often anybody is looked for. -/
  made : ((s.hash (userKey user.id)).get? "username" = none ∨
      (s.hash (userKey user.id)).get? "username" = some "") →
    ∃ t, (get now user true).run answer s =
        (.ok ⟨user.id, user.username, user.bot, 1, some now⟩, t) ∧
      (writesOf ((get now user true).transcript answer s)).length = 1 ∧
      ∀ (between : List Lookup) (next : Lookup), next.id = user.id →
        next.program.run answer (afterLookups between t) =
            (.ok ⟨user.id, user.username, user.bot, 1, some now⟩, afterLookups between t) ∧
          LeavesAlone next.program (afterLookups between t)
  /-- A user who has a name is left alone, also if the record cannot be read. -/
  known : ∀ name, (s.hash (userKey user.id)).get? "username" = some name → name ≠ "" →
    ∀ createMissing, LeavesAlone (get now user createMissing) s

/-- **A record is made once, and only for a missing user.**  Looking for somebody without making a
record never writes at all. -/
theorem get_creates_once (s : Store) {now : Timestamp} {user : User} (hname : user.username ≠ "")
    (hnow : now.HasPlainYear) :
    CreatesOnce s now user ∧
      ∀ (s' : Store) (now' : Timestamp) (user' : User) (id : UInt64),
        LeavesAlone (get now' user' false) s' ∧ LeavesAlone (find id) s' := by
  refine ⟨⟨?_, ?_, ?_⟩, fun s' now' user' id => ?_⟩
  · rw [← record_eq_notFound_iff]
    constructor
    · intro hwrites
      refine Classical.byContradiction fun hknown => ?_
      exact hwrites (get_of_known now hknown true).2.1
    · intro hnone
      rw [(get_of_unknown now hnone).2.1]
      exact List.cons_ne_nil _ _
  · intro hmissing
    have hnone := record_eq_notFound_iff.2 hmissing
    obtain ⟨hrun, hwrites, -⟩ := get_of_unknown now hnone
    have hrecord : (s.afterPost now user).record user.id =
        .ok ⟨user.id, user.username, user.bot, 1, some now⟩ := by
      rw [afterPost_of_notFound hnone, record, hash_write_self,
        UserRecord.ofHash_newUser user.id _ hname, Timestamp.read?_text hnow]
    rw [hrecord] at hrun
    refine ⟨_, hrun, by rw [hwrites]; rfl, fun between next hnext => ?_⟩
    have hlater := record_afterLookups hrecord between
    rw [← hnext] at hlater
    rw [← hnext]
    exact next.of_record hlater
  · intro name hhas hne createMissing
    refine (get_of_known now (fun hnone => ?_) createMissing).2
    rcases record_eq_notFound_iff.1 hnone with habsent | hempty
    · rw [habsent] at hhas
      cases hhas
    · rw [hempty] at hhas
      cases hhas
      exact hne rfl
  · exact ⟨leavesAlone_of_reads (get_reads now' user') s', leavesAlone_of_reads (find_reads id) s'⟩

/-- A store with what may be left of a user without a name; nothing of it can be read. -/
def leftoverStore : Store :=
  ⟨[("user:7", ⟨[("username", ""), ("isBot", "maybe"), ("posts", "many"), ("lastSeen", "now"),
    ("note", "mine")]⟩)]⟩

theorem get_creates_once_leftovers :
    "ann" ≠ "" ∧ Timestamp.leapSecond.HasPlainYear ∧
    CreatesOnce leftoverStore .leapSecond ⟨7, "ann", true⟩ ∧
    ∃ t, (get .leapSecond ⟨7, "ann", true⟩ true).run answer leftoverStore =
        (.ok ⟨7, "ann", true, 1, some .leapSecond⟩, t) ∧
      (find 7).run answer (afterLookups [.get .epoch ⟨8, "", false⟩ true, .find 9] t) =
        (.ok ⟨7, "ann", true, 1, some .leapSecond⟩,
          afterLookups [.get .epoch ⟨8, "", false⟩ true, .find 9] t) := by
  have hname : "ann" ≠ "" := by decide
  have hnow : Timestamp.leapSecond.HasPlainYear := by decide
  obtain ⟨honce, -⟩ :=
    @get_creates_once leftoverStore .leapSecond ⟨7, "ann", true⟩ hname hnow
  obtain ⟨t, hrun, -, hlater⟩ := honce.made (.inr rfl)
  exact ⟨hname, hnow, honce, t, hrun, (hlater _ (.find 7) rfl).1⟩

end CommandBot.Users
