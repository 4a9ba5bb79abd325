/-
**Commands of different users.**

Commands of one user that are recorded at the same time may get lost; commands of different users
may not.  Recording a command reads and writes the hash of its author and no other, and the hashes
of different users are under different keys.  So the store falls apart into places that the calls
keep to, and it makes no difference how their steps are mixed: every call has the result that it has
when the calls follow one another, in whatever order, and the store ends up with the same hashes.

Main results:

* `CommandBot.Store.separates` — a store falls apart into its keys;
* `CommandBot.Users.recordPost_asks` — recording a command asks about the author's key only;
* `CommandBot.Users.of_turns_recordings` — what calls of different users come to, however they are
  mixed;
* `CommandBot.Users.recordings_independent` — **calls of different users do not interfere.**
-/

import CommandBot.Proofs.Program.Separation
import CommandBot.Proofs.Users.Race

set_option relaxedAutoImplicit false
set_option autoImplicit false

namespace CommandBot

open Program

/-! ### Keys as places -/

/-- Stores that agree under a key have the same hash there. -/
theorem Store.hash_congr {s s' : Store} {key : String} (h : s.get? key = s'.get? key) :
    s.hash key = s'.hash key := by
  rw [hash, hash, h]

/-- **A store falls apart into its keys**: a request reads and changes what is under its own key. -/
theorem Store.separates :
    Separates Store.answer StoreRequest.key (Table.get? : Store → String → Option Hash) where
  frame := by
    intro q s key hkey
    cases q with
    | getAll _ => rfl
    | setFields _ fields => exact get?_write_of_ne hkey
  answer_congr := by
    intro q s s' hs
    cases q with
    | getAll key => exact congrArg Except.ok (hash_congr hs)
    | setFields _ _ => rfl
  view_congr := by
    intro q s s' hs
    cases q with
    | getAll _ => exact hs
    | setFields key fields =>
        have hhash : s.hash key = s'.hash key := hash_congr hs
        simp only [answer, StoreRequest.key, write, Table.get?_set_self, hhash]

namespace Users

/-! ### What a call asks -/

/-- Whether a request is about the key of a user. -/
def IsAbout (id : UInt64) (r : StoreRequest) : Prop := r.key = userKey id

theorem readHash_isAbout (id : UInt64) : (readHash id).Asks (IsAbout id) :=
  .ask rfl fun answer => .done answer

theorem find_isAbout (id : UInt64) : (find id).Asks (IsAbout id) := by
  refine (readHash_isAbout id).bind fun answer => ?_
  cases answer with
  | error e => exact .done _
  | ok hash => exact .done _

theorem writeFields_isAbout (id : UInt64) (fields : List (String × String)) :
    (writeFields id fields).Asks (IsAbout id) :=
  .ask rfl fun answer => .done answer

theorem set_isAbout (id : UInt64) (update : UserUpdate) :
    (set id update).Asks (IsAbout id) := by
  refine (find_isAbout id).bind fun found => ?_
  cases found with
  | error e => exact .done _
  | ok record =>
      dsimp only
      split
      · exact .done _
      · exact writeFields_isAbout id update.fields

theorem countPost_isAbout (now : Timestamp) (user : User) (record : UserRecord) :
    (countPost now user record).Asks (IsAbout user.id) := by
  refine (set_isAbout user.id _).bind fun written => ?_
  cases written with
  | error e => exact .done _
  | ok _ => exact .done _

theorem create_isAbout (now : Timestamp) (user : User) :
    (create user now).Asks (IsAbout user.id) := by
  refine (writeFields_isAbout user.id _).bind fun written => ?_
  cases written with
  | error e => exact .done _
  | ok _ => exact find_isAbout user.id

theorem get_isAbout (now : Timestamp) (user : User) (createMissing : Bool) :
    (get now user createMissing).Asks (IsAbout user.id) := by
  refine (readHash_isAbout user.id).bind fun answer => ?_
  cases answer with
  | error e => exact .done _
  | ok hash =>
      dsimp only
      split
      · split
        · exact create_isAbout now user
        · exact .done _
      · exact .done _

/-- **Recording a command asks about the author's key only.** -/
theorem recordPost_asks (now : Timestamp) (user : User) :
    (recordPost now user).Asks (IsAbout user.id) := by
  refine (find_isAbout user.id).bind fun found => ?_
  split
  · exact countPost_isAbout now user _
  · exact get_isAbout now user true
  · exact .done _

/-! ### Calls of different users -/

section Calls

variable {calls : List (Timestamp × User)}

/-- Each call with the key that it keeps to. -/
def jobs (calls : List (Timestamp × User)) : List (String × StoreTask UserRecord) :=
  calls.map fun call => (userKey call.2.id, recordPost call.1 call.2)

theorem map_snd_jobs (calls : List (Timestamp × User)) :
    (jobs calls).map Prod.snd = recordings calls := by
  simp only [jobs, recordings, List.map_map, Function.comp_def]

theorem map_fst_jobs (calls : List (Timestamp × User)) :
    (jobs calls).map Prod.fst = calls.map fun call => userKey call.2.id := by
  simp only [jobs, List.map_map, Function.comp_def]

/-- Calls of different users keep to different keys. -/
theorem apart_jobs (hids : (calls.map fun call => call.2.id).Nodup) :
    Apart StoreRequest.key (jobs calls) where
  asks := by
    intro job hjob
    obtain ⟨call, -, rfl⟩ := List.mem_map.1 hjob
    exact recordPost_asks call.1 call.2
  nodup := by
    have hkeys := hids.map (f := userKey) fun _ _ h => userKey_injective h
    rw [List.map_map] at hkeys
    rw [map_fst_jobs]
    exact hkeys

/-- The result of a call that has the store for itself. -/
def resultAlone (start : Store) (call : Timestamp × User) : Except StoreError UserRecord :=
  ((recordPost call.1 call.2).run Store.answer start).1

/-- What a call that has the store for itself leaves under its author's key. -/
def hashAlone (start : Store) (call : Timestamp × User) : Option Hash :=
  ((recordPost call.1 call.2).run Store.answer start).2.get? (userKey call.2.id)

/-- **What calls of different users come to, however their steps are mixed**: each has the result
that it has alone, leaves the hash that it leaves alone, and no other key is touched. -/
theorem of_turns_recordings (hids : (calls.map fun call => call.2.id).Nodup) {start t : Store}
    {results : List (Except StoreError UserRecord)}
    (h : Turns Store.answer (recordings calls, start) (results.map done, t)) :
    results = calls.map (resultAlone start) ∧
      (∀ call ∈ calls, t.get? (userKey call.2.id) = hashAlone start call) ∧
        ∀ key, key ∉ calls.map (fun call => userKey call.2.id) → t.get? key = start.get? key := by
  rw [← map_snd_jobs] at h
  obtain ⟨hresults, hplaces, hrest⟩ := Store.separates.of_turns (apart_jobs hids) h
  refine ⟨?_, ?_, ?_⟩
  · rw [hresults, jobs, List.map_map]
    rfl
  · intro call hcall
    exact hplaces _ (List.mem_map_of_mem hcall)
  · rw [map_fst_jobs] at hrest
    exact hrest

/-- The hashes after calls of different users do not depend on how the steps are mixed, nor on the
order in which the calls are given. -/
theorem get?_congr_of_turns {order : List (Timestamp × User)} (horder : order.Perm calls)
    (hids : (calls.map fun call => call.2.id).Nodup) {start t t' : Store}
    {results results' : List (Except StoreError UserRecord)}
    (h : Turns Store.answer (recordings calls, start) (results.map done, t))
    (h' : Turns Store.answer (recordings order, start) (results'.map done, t')) (key : String) :
    t.get? key = t'.get? key := by
  have hids' : (order.map fun call => call.2.id).Nodup := (horder.map _).nodup_iff.2 hids
  obtain ⟨-, hplaces, hrest⟩ := of_turns_recordings hids h
  obtain ⟨-, hplaces', hrest'⟩ := of_turns_recordings hids' h'
  by_cases hkey : key ∈ calls.map fun call => userKey call.2.id
  · obtain ⟨call, hcall, rfl⟩ := List.mem_map.1 hkey
    rw [hplaces call hcall, hplaces' call (horder.mem_iff.2 hcall)]
  · have hkey' : key ∉ order.map fun call => userKey call.2.id := by
      rwa [(horder.map _).mem_iff]
    rw [hrest key hkey, hrest' key hkey']

end Calls

/-- **Calls of different users do not interfere.**  However their steps are mixed, what is left of
the calls can be finished.  When it is, every call has the result that it has when the calls follow
one another, in whatever order, and the store has the same hash under every key.  A call asks about
the key of its author only, and no two users share a key. -/
theorem recordings_independent {calls : List (Timestamp × User)}
    (hids : (calls.map fun call => call.2.id).Nodup) (start : Store) :
    (∀ c, Turns Store.answer (recordings calls, start) c →
      ∃ (results : List (Except StoreError UserRecord)) (t : Store),
        Turns Store.answer c (results.map done, t)) ∧
    (∀ (results : List (Except StoreError UserRecord)) (t : Store),
      Turns Store.answer (recordings calls, start) (results.map done, t) →
      results.length = calls.length ∧ ∀ order, order.Perm calls →
        (order.zip (oneByOne Store.answer (recordings order) start).1).Perm (calls.zip results) ∧
          ∀ key, t.get? key = (oneByOne Store.answer (recordings order) start).2.get? key) ∧
    (∀ call ∈ calls, (recordPost call.1 call.2).Asks fun q => q.key = userKey call.2.id) ∧
    ∀ a b : UInt64, a ≠ b → userKey a ≠ userKey b := by
  refine ⟨?_, ?_, ?_, ?_⟩
  · intro c _
    exact ⟨_, _, turns_oneByOne Store.answer c.1 c.2⟩
  · intro results t h
    have hresults := (of_turns_recordings hids h).1
    refine ⟨by rw [hresults, List.length_map], fun order horder => ?_⟩
    have hids' : (order.map fun call => call.2.id).Nodup := (horder.map _).nodup_iff.2 hids
    have hinTurn := turns_oneByOne Store.answer (recordings order) start
    refine ⟨?_, get?_congr_of_turns horder hids h hinTurn⟩
    -- In either run a call is paired with the result that it has alone.
    have hzip : ∀ l : List (Timestamp × User),
        l.zip (l.map (resultAlone start)) = l.map fun call => (call, resultAlone start call) := by
      intro l
      simpa using List.zip_map' (f := id) (g := resultAlone start) (l := l)
    rw [(of_turns_recordings hids' hinTurn).1, hresults, hzip, hzip]
    exact horder.map _
  · intro call _
    exact recordPost_asks call.1 call.2
  · intro a b hne hkey
    exact hne (userKey_injective hkey)

/-! ### Three users -/

/-- Commands of three users.  The key of the first begins that of the second, and the third has no
name. -/
def threeCalls : List (Timestamp × User) :=
  [(.epoch, ⟨7, "ann", false⟩), (.epoch, ⟨77, "bob", true⟩), (.epoch, ⟨8, "", false⟩)]

/-- A store in which the second user has sent three commands. -/
def threeStore : Store :=
  Store.write Table.empty (userKey 77) [("username", "bo"), ("posts", "3"), ("colour", "red")]

/-- The three calls beside each other, with their steps mixed. -/
def threeCallsMixed : List (StoreTask UserRecord) × Store :=
  takeTurns Store.answer [0, 1, 2, 0, 2, 1, 0, 1, 2, 0, 2] (recordings threeCalls, threeStore)

/-- What the calls find.  The record of the third cannot be read back, since it has no name. -/
def threeResults : List (Except StoreError UserRecord) :=
  [.ok ⟨7, "ann", false, 1, some .epoch⟩, .ok ⟨77, "bob", false, 4, some .epoch⟩, .error .notFound]

/-- The mixed calls leave the hashes that the calls leave one after another, the last one first. -/
theorem recordings_independent_threeCalls :
    Turns Store.answer (recordings threeCalls, threeStore)
        (threeResults.map done, threeCallsMixed.2) ∧
      ∀ key, threeCallsMixed.2.get? key =
        (oneByOne Store.answer (recordings threeCalls.reverse) threeStore).2.get? key := by
  have hmixed : Turns Store.answer (recordings threeCalls, threeStore)
      (threeResults.map done, threeCallsMixed.2) := by
    have hresults : threeCallsMixed.1 = threeResults.map done := by rfl
    rw [← hresults]
    exact turns_takeTurns Store.answer _ _
  have hids : (threeCalls.map fun call => call.2.id).Nodup := by decide
  obtain ⟨-, hdone, -, -⟩ := recordings_independent hids threeStore
  obtain ⟨-, hsame⟩ := hdone threeResults threeCallsMixed.2 hmixed
  exact ⟨hmixed, (hsame threeCalls.reverse threeCalls.reverse_perm).2⟩

end Users

end CommandBot
