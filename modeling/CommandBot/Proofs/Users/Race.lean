/-
**Commands recorded at the same time.**

Recording a command is no transaction.  If several commands of one user are recorded beside each
other, one may read the record, wait while others count theirs, and then write what is by now an old
count; a late creation may even write the count of one over a greater one.  Counts get lost this
way.  But never all of them: a record that is there stays, it can be read, and the counter never
shows more commands than were recorded.

The invariant speaks of the number of writes so far.  Before the first write the record is as it
was; after it there is a record whose counter has moved, by no more than the number of writes.

Main definitions:

* `CommandBot.Users.Raced` — the invariant of the race.

Main results:

* `CommandBot.Users.guards_recordPost` — recording a command keeps the invariant, whatever others
  do that keep it;
* `CommandBot.Users.race_bounds` — **what is left after a race.**
-/

import CommandBot.Proofs.Program.Interleaving
import CommandBot.Proofs.Users.Posts

set_option relaxedAutoImplicit false
set_option autoImplicit false

namespace CommandBot.Users

open Program

/-! ### The invariant -/

/-- The store after `n` writes of a race for one record, which began in the store `start`. -/
def Raced (start : Store) (id : UInt64) (n : Nat) (s : Store) : Prop :=
  (n = 0 ∧ s.record id = start.record id) ∨
    (0 < n ∧ ∃ r, s.record id = .ok r ∧ min (start.postCount id + 1) maxCount ≤ r.posts.toNat ∧
      r.posts.toNat ≤ min (start.postCount id + n) maxCount)

/-- What a question to the store costs: writes are counted. -/
def writeCost : StoreRequest → Nat
  | .getAll _ => 0
  | .setFields _ _ => 1

/-- What a finished call leaves: a record, and at least one write. -/
def Recorded (n : Nat) (result : Except StoreError UserRecord) : Prop :=
  (∃ r, result = .ok r) ∧ 0 < n

theorem Recorded.mono {n m : Nat} {result : Except StoreError UserRecord} (h : n ≤ m)
    (hr : Recorded n result) : Recorded m result :=
  ⟨hr.1, Nat.lt_of_lt_of_le hr.2 h⟩

namespace Raced

variable {start s s' : Store} {id : UInt64} {n m : Nat}

theorem of_start (start : Store) (id : UInt64) : Raced start id 0 start := .inl ⟨rfl, rfl⟩

/-- A counter that is there shows at least what it showed at the start. -/
theorem posts_bounds (h : Raced start id n s) {r : UserRecord} (hr : s.record id = .ok r) :
    start.postCount id ≤ r.posts.toNat ∧ r.posts.toNat ≤ min (start.postCount id + n) maxCount := by
  have hmax := toNat_le_maxCount r.posts
  have hstart := start.postCount_le_maxCount id
  rcases h with ⟨rfl, hsame⟩ | ⟨-, r', hr', hlow, hhigh⟩
  · have hsame : start.postCount id = r.posts.toNat := by
      simp only [Store.postCount, ← hsame, hr]
    omega
  · obtain rfl : r' = r := by simpa [hr'] using hr
    omega

/-- A record that is there is there after any further writes. -/
theorem ok_later (h : Raced start id n s) (hnm : n ≤ m) (h' : Raced start id m s')
    (hr : ∃ r, s.record id = .ok r) : ∃ r, s'.record id = .ok r := by
  rcases h' with ⟨rfl, hsame'⟩ | ⟨-, r', hr', -, -⟩
  · rcases h with ⟨-, hsame⟩ | ⟨hpos, -⟩
    · rw [hsame', ← hsame]
      exact hr
    · omega
  · exact ⟨r', hr'⟩

/-- Nobody is unknown after a write, and at the start only those without a counter. -/
theorem of_notFound (h : Raced start id n s) (hr : s.record id = .error .notFound) :
    n = 0 ∧ start.postCount id = 0 := by
  rcases h with ⟨rfl, hsame⟩ | ⟨-, r', hr', -, -⟩
  · refine ⟨rfl, ?_⟩
    simp only [Store.postCount, ← hsame, hr]
  · rw [hr'] at hr
    cases hr

/-- A record that could be read or was missing at the start never becomes unreadable. -/
theorem not_isUnreadable (hstart : ¬ start.IsUnreadable id) (h : Raced start id n s) :
    ¬ s.IsUnreadable id := by
  rcases h with ⟨-, hsame⟩ | ⟨-, r', hr', -, -⟩
  · rintro ⟨name, text, he⟩
    exact hstart ⟨name, text, hsame ▸ he⟩
  · exact Store.not_isUnreadable_of_ok hr'

/-- A store whose record has a counter that moved, and not too far, is as the invariant says. -/
theorem of_write {r : UserRecord} (hr : s.record id = .ok r)
    (hlow : min (start.postCount id + 1) maxCount ≤ r.posts.toNat)
    (hhigh : r.posts.toNat ≤ min (start.postCount id + (n + 1)) maxCount) :
    Raced start id (n + 1) s :=
  .inr ⟨Nat.succ_pos n, r, hr, hlow, hhigh⟩

end Raced

/-! ### Steps of a call -/

section Steps

variable {α : Type} {start : Store} {id : UInt64} {Post : Nat → α → Prop} {budget n : Nat}

/-- A call that reads the hash guards the invariant if it does so however it goes on. -/
theorem guards_readHash_bind {f : Except StoreError Hash → Program StoreRequest.Answer α}
    (hf : ∀ m s, n ≤ m → Raced start id m s →
      (f (.ok (s.hash (userKey id)))).Guards Store.answer writeCost (Raced start id) Post budget m) :
    ((readHash id).bind f).Guards Store.answer writeCost (Raced start id) Post budget n := by
  refine .ask (Nat.zero_le budget) ?_ ?_
  · intro m s _ hs
    exact hs
  · intro m s hm hs
    exact hf m s hm hs

/-- The same of a call that reads the record. -/
theorem guards_find_bind {f : Except StoreError UserRecord → Program StoreRequest.Answer α}
    (hf : ∀ m s, n ≤ m → Raced start id m s →
      (f (s.record id)).Guards Store.answer writeCost (Raced start id) Post budget m) :
    ((find id).bind f).Guards Store.answer writeCost (Raced start id) Post budget n := by
  rw [find, bind_assoc]
  exact guards_readHash_bind hf

/-- A call that writes has used up its budget. -/
theorem guards_writeFields_bind {fields : List (String × String)}
    {f : Except StoreError Unit → Program StoreRequest.Answer α}
    (hkeep : ∀ m s, n ≤ m → Raced start id m s →
      Raced start id (m + 1) (s.write (userKey id) fields))
    (hf : ∀ m, 0 < m →
      (f (.ok ())).Guards Store.answer writeCost (Raced start id) Post 0 m) :
    ((writeFields id fields).bind f).Guards Store.answer writeCost (Raced start id) Post 1 n := by
  refine .ask (Nat.le_refl 1) hkeep ?_
  intro m s _ _
  exact hf (m + 1) (Nat.succ_pos m)

end Steps

/-! ### A call -/

section Calls

variable {start : Store} {user : User} (now : Timestamp)

/-- Once something was written the record can be read. -/
theorem guards_find {budget n : Nat} (hn : 0 < n) :
    (find user.id).Guards Store.answer writeCost (Raced start user.id) Recorded budget n := by
  rw [← bind_done_right (find user.id)]
  refine guards_find_bind fun m s hm hs => .done ?_
  rcases hs with ⟨rfl, -⟩ | ⟨hpos, r, hr, -, -⟩
  · omega
  · exact ⟨⟨r, hr⟩, hpos⟩

/-- Counting a command of a user whose record was read before. -/
theorem guards_countPost (hname : user.username ≠ "") {n : Nat} {s : Store} {r : UserRecord}
    (hs : Raced start user.id n s) (hr : s.record user.id = .ok r) :
    (countPost now user r).Guards Store.answer writeCost (Raced start user.id) Recorded 1 n := by
  simp only [countPost, set, bind_assoc]
  -- The record is read once more, to see that it is still there.
  refine guards_find_bind fun m s' hm hs' => ?_
  obtain ⟨r', hr'⟩ := hs.ok_later hm hs' ⟨r, hr⟩
  rw [hr']
  simp only [fields_isEmpty_ofPost, Bool.false_eq_true, if_false]
  refine guards_writeFields_bind ?_ fun k hk => .done ⟨⟨_, rfl⟩, hk⟩
  intro k t hk ht
  -- The record may have changed since it was read; what is written is the count of that time.
  obtain ⟨r'', hr''⟩ := hs'.ok_later hk ht ⟨r', hr'⟩
  have hwritten := UserRecord.ofHash_post hr'' hname (nextCount r.posts) now
  rw [← Store.hash_write_self] at hwritten
  have hnext := toNat_nextCount r.posts
  obtain ⟨hlow, hhigh⟩ := hs.posts_bounds hr
  exact .of_write hwritten (by dsimp only; omega) (by dsimp only; omega)

/-- Making the record of a user who was unknown at the start. -/
theorem guards_create (hname : user.username ≠ "") (hzero : start.postCount user.id = 0)
    {n : Nat} :
    (create user now).Guards Store.answer writeCost (Raced start user.id) Recorded 1 n := by
  refine guards_writeFields_bind ?_ fun k hk => guards_find hk
  intro k t hk ht
  have hwritten :=
    UserRecord.ofHash_newUser user.id (t.hash (userKey user.id)) hname now
  rw [← Store.hash_write_self] at hwritten
  have hone : (1 : UInt64).toNat = 1 := rfl
  have hmax : 1 ≤ maxCount := by decide
  exact .of_write hwritten (by dsimp only; omega) (by dsimp only; omega)

/-- **Recording a command keeps the invariant**, whatever others do that keep it. -/
theorem guards_recordPost (hname : user.username ≠ "") (hstart : ¬ start.IsUnreadable user.id) :
    (recordPost now user).Guards Store.answer writeCost (Raced start user.id) Recorded 1 0 := by
  refine guards_find_bind fun n s _ hs => ?_
  rcases s.record_cases user.id with ⟨r, hr⟩ | hr | hr
  · rw [hr]
    exact guards_countPost now hname hs hr
  · rw [hr]
    obtain ⟨-, hzero⟩ := hs.of_notFound hr
    -- Someone else may have made the record before it is looked for again.
    refine guards_readHash_bind fun m s' hm hs' => ?_
    dsimp only
    rw [Store.ofHash_hash]
    rcases s'.record_cases user.id with ⟨r', hr'⟩ | hr' | hr'
    · rw [hr']
      refine .done ⟨⟨r', rfl⟩, ?_⟩
      rcases hs' with ⟨rfl, hsame'⟩ | ⟨hpos, -⟩
      · obtain ⟨rfl, -⟩ := hs.of_notFound hr
        rcases hs with ⟨-, hsame⟩ | ⟨hpos, -⟩
        · rw [hsame', ← hsame, hr] at hr'
          cases hr'
        · omega
      · exact hpos
    · rw [hr']
      exact guards_create now hname hzero
    · exact absurd hr' (hs'.not_isUnreadable hstart)
  · exact absurd hr (hs.not_isUnreadable hstart)

end Calls

/-! ### The race -/

/-- Calls that record a command each. -/
def recordings (calls : List (Timestamp × User)) : List (StoreTask UserRecord) :=
  calls.map fun call => recordPost call.1 call.2

/-- **What is left after a race.**  Commands of one user are recorded beside each other, in any
order of steps.  At no moment can the record not be read, and once it is there it stays.  When all
calls are done, each has its record, and the counter has moved: by at least one command and by at
most all of them, up to the greatest count. -/
theorem race_bounds {id : UInt64} {calls : List (Timestamp × User)} (hcalls : calls ≠ [])
    (hid : ∀ call ∈ calls, call.2.id = id) (hnames : ∀ call ∈ calls, call.2.username ≠ "")
    {start : Store} (hstart : ¬ start.IsUnreadable id) :
    (∀ c c', Turns Store.answer (recordings calls, start) c → Turns Store.answer c c' →
      ¬ c.2.IsUnreadable id ∧ ((∃ r, c.2.record id = .ok r) → ∃ r, c'.2.record id = .ok r)) ∧
    (∀ (results : List (Except StoreError UserRecord)) (t : Store),
      Turns Store.answer (recordings calls, start) (results.map Program.done, t) →
      (results.length = calls.length ∧ ∀ result ∈ results, ∃ r, result = .ok r) ∧
      ∃ r, UserRecord.ofHash id (t.hash (userKey id)) = .ok r ∧
        min (start.postCount id + 1) maxCount ≤ r.posts.toNat ∧
        r.posts.toNat ≤ min (start.postCount id + calls.length) maxCount) := by
  have hguard : ∀ p ∈ recordings calls,
      p.Guards Store.answer writeCost (Raced start id) Recorded 1 0 := by
    intro p hp
    obtain ⟨call, hcall, rfl⟩ := List.mem_map.1 hp
    obtain rfl := hid call hcall
    exact guards_recordPost call.1 (hnames call hcall) hstart
  have hmono : ∀ n m result, n ≤ m → Recorded n result → Recorded m result := by
    intro n m result hnm hresult
    exact hresult.mono hnm
  constructor
  · intro c c' h h'
    obtain ⟨n, n', hle, -, hn, hn'⟩ := Guards.between hmono hguard (.of_start start id) h h'
    exact ⟨hn.not_isUnreadable hstart, hn.ok_later hle hn'⟩
  · intro results t h
    have hlength : results.length = calls.length := by
      simpa [recordings] using h.length_eq
    obtain ⟨n, hn, hraced, hdone⟩ := Guards.of_turns hmono hguard (.of_start start id) h
    refine ⟨⟨hlength, fun result hresult => (hdone result hresult).1⟩, ?_⟩
    have hpos : 0 < n := by
      cases results with
      | nil => exact absurd (List.eq_nil_of_length_eq_zero hlength.symm) hcalls
      | cons result rest => exact (hdone result List.mem_cons_self).2
    rw [recordings, List.length_map, Nat.mul_one] at hn
    rcases hraced with ⟨rfl, -⟩ | ⟨-, r, hr, hlow, hhigh⟩
    · omega
    · exact ⟨r, hr, hlow, by omega⟩

/-! ### A race of two -/

/-- Two commands of one user, who changes their name in between. -/
def twoCalls : List (Timestamp × User) :=
  [(.epoch, ⟨7, "ann", false⟩), (.epoch, ⟨7, "anna", false⟩)]

/-- What the calls find: each has made the record for the first time. -/
def twoResults : List (Except StoreError UserRecord) :=
  [.ok ⟨7, "ann", false, 1, some .epoch⟩, .ok ⟨7, "anna", false, 1, some .epoch⟩]

/-- The calls beside each other on an empty store.  Both find nobody, twice, before either
writes. -/
def twoCallsRace : List (StoreTask UserRecord) × Store :=
  takeTurns Store.answer [0, 1, 0, 1, 0, 0, 1, 1] (recordings twoCalls, Table.empty)

/-- Both calls are done, and the counter has moved. -/
theorem race_bounds_twoCalls :
    Turns Store.answer (recordings twoCalls, Table.empty)
        (twoResults.map Program.done, twoCallsRace.2) ∧
      ∃ r, UserRecord.ofHash 7 (twoCallsRace.2.hash (userKey 7)) = .ok r ∧
        1 ≤ r.posts.toNat ∧ r.posts.toNat ≤ 2 := by
  have hrace : Turns Store.answer (recordings twoCalls, Table.empty)
      (twoResults.map Program.done, twoCallsRace.2) := by
    have hresults : twoCallsRace.1 = twoResults.map Program.done := by rfl
    rw [← hresults]
    exact turns_takeTurns Store.answer [0, 1, 0, 1, 0, 0, 1, 1] _
  have hid : ∀ call ∈ twoCalls, call.2.id = 7 := by decide
  have hnames : ∀ call ∈ twoCalls, call.2.username ≠ "" := by decide
  have hstart : ¬ Store.IsUnreadable Table.empty 7 := Store.not_isUnreadable_of_notFound rfl
  obtain ⟨-, hdone⟩ := race_bounds (List.cons_ne_nil _ _) hid hnames hstart
  obtain ⟨-, r, hr, hlow, hhigh⟩ := hdone twoResults twoCallsRace.2 hrace
  exact ⟨hrace, r, hr, hlow, hhigh⟩

/-- One of the two commands is lost. -/
example : (twoCallsRace.2.record 7).map (·.posts) = .ok 1 := by rfl

end CommandBot.Users
