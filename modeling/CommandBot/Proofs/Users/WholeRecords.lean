/-
**Records stay whole.**

A new record is written with all its fields at once, and an update of some of them reaches only a
hash that has the others already.  So every hash that the operations leave behind has the four
fields of a record and no others, each as it is written, whatever fails in between and whatever
names are given.  Such a hash holds a record or, under an empty name, nobody's; it never is
unreadable.

Main definitions:

* `CommandBot.Hash.IsWhole` — a hash with the fields of a record;
* `CommandBot.Store.IsWhole` — a store of such hashes;
* `CommandBot.Store.IsSound` — what can be read in it;
* `CommandBot.Users.Call` — the operations that may write;
* `CommandBot.Users.afterCalls` — **the store after some of them.**

Main results:

* `CommandBot.Hash.IsWhole.setAll_fields`, `CommandBot.Hash.isWhole_setAll_ofNewUser` — an update
  keeps a hash whole, and a new record makes one of an empty hash;
* `CommandBot.Store.IsWhole.advances` — **whatever an operation may do keeps a store whole**;
* `CommandBot.Store.IsWhole.isSound` — **a whole store can be read**;
* `CommandBot.Users.isWhole_afterCalls` — no sequence of operations breaks a record.
-/

import CommandBot.Proofs.Users.Faults

set_option relaxedAutoImplicit false
set_option autoImplicit false

namespace CommandBot

/-! ### Updates of whole records -/

namespace UserUpdate

open UserRecord

/-- The update that gives all fields of a record. -/
def whole (username : String) (bot : Bool) (posts : UInt64) (seen : Timestamp) : UserUpdate :=
  ⟨some username, some bot, some posts, some seen⟩

variable {username : String} {bot : Bool} {posts : UInt64} {seen : Timestamp}

/-- It gives the four fields of a record, and no others. -/
theorem isSome_value?_whole {name : String} :
    ((whole username bot posts seen).value? name).isSome = true ↔
      name ∈ [usernameField, botField, postsField, lastSeenField] := by
  unfold value?
  split
  · next h => simp [whole, h]
  · next h₁ =>
      split
      · next h => simp [whole, h]
      · next h₂ =>
          split
          · next h => simp [whole, h]
          · next h₃ =>
              split
              · next h => simp [whole, h]
              · next h₄ => simp [h₁, h₂, h₃, h₄]

/-- An update of a whole record gives a whole record. -/
theorem value?_or_whole (u : UserUpdate) (name : String) :
    (u.value? name).or ((whole username bot posts seen).value? name) =
      (whole (u.username.getD username) (u.bot.getD bot) (u.posts.getD posts)
        (u.lastSeen.getD seen)).value? name := by
  obtain ⟨username', bot', posts', seen'⟩ := u
  simp only [value?, whole]
  split
  · cases username' with
    | none => rfl
    | some _ => rfl
  · split
    · cases bot' with
      | none => rfl
      | some _ => rfl
    · split
      · cases posts' with
        | none => rfl
        | some _ => rfl
      · split
        · cases seen' with
          | none => rfl
          | some _ => rfl
        · rfl

end UserUpdate

/-! ### Whole hashes -/

namespace Hash

open UserRecord UserUpdate

/-- A hash with the four fields of a record and no others, each as it is written.  The flag and the
counter are related as they should be. -/
def IsWhole (P : Bool → UInt64 → Prop) (h : Hash) : Prop :=
  ∃ username bot posts seen, P bot posts ∧
    ∀ name, h.get? name = (whole username bot posts seen).value? name

variable {P : Bool → UInt64 → Prop} {h : Hash}

/-- A new record makes a whole hash of an empty one. -/
theorem isWhole_setAll_ofNewUser {user : User} (hP : P user.bot 1) (now : Timestamp) :
    IsWhole P (Table.empty.setAll (ofNewUser user now).fields) := by
  refine ⟨user.username, user.bot, 1, now, hP, fun name => ?_⟩
  rw [get?_setAll_fields, Table.get?_empty, Option.or_none]
  rfl

/-- **An update keeps a hash whole**, if what it gives may stand beside what it leaves. -/
theorem IsWhole.setAll_fields (hh : IsWhole P h) {P' : Bool → UInt64 → Prop} {u : UserUpdate}
    (hP : ∀ bot posts, P bot posts → readBot (h.get? botField) = .ok bot →
      readPosts (h.get? postsField) = .ok posts → P' (u.bot.getD bot) (u.posts.getD posts)) :
    IsWhole P' (h.setAll u.fields) := by
  obtain ⟨username, bot, posts, seen, hbot, hget⟩ := hh
  refine ⟨u.username.getD username, u.bot.getD bot, u.posts.getD posts, u.lastSeen.getD seen,
    hP bot posts hbot ?_ ?_, fun name => ?_⟩
  · rw [hget]
    exact readBot_botText bot
  · rw [hget]
    exact readPosts_repr posts
  · rw [get?_setAll_fields, hget, value?_or_whole]

/-- A whole hash holds a record, or it is nobody's. -/
theorem IsWhole.ofHash_cases (hh : IsWhole P h) (id : UInt64) :
    (∃ r, ofHash id h = .ok r ∧ P r.bot r.posts) ∨ ofHash id h = .error .notFound := by
  obtain ⟨username, bot, posts, seen, hP, hget⟩ := hh
  by_cases hname : username = ""
  · right
    rw [ofHash_eq_notFound_iff, hget]
    exact hname
  · left
    refine ⟨⟨id, username, bot, posts, Timestamp.read? seen.text⟩, ?_, hP⟩
    rw [ofHash_eq_ok_iff]
    simp only [hget]
    exact ⟨trivial, rfl, hname, readBot_botText bot, readPosts_repr posts, rfl⟩

end Hash

/-! ### Whole stores -/

namespace Store

open UserRecord

/-- A store in which every hash is whole. -/
def IsWhole (P : Bool → UInt64 → Prop) (s : Store) : Prop :=
  ∀ key h, s.get? key = some h → Hash.IsWhole P h

variable {P : Bool → UInt64 → Prop} {s t : Store}

theorem isWhole_empty (P : Bool → UInt64 → Prop) : IsWhole P Table.empty := by
  intro key h hh
  cases hh

theorem IsWhole.hash_cases (hs : s.IsWhole P) (key : String) :
    s.hash key = Table.empty ∨ Hash.IsWhole P (s.hash key) := by
  unfold hash
  cases hget : s.get? key with
  | none => exact .inl rfl
  | some h => exact .inr (hs key h hget)

/-- A user of a whole store has a record or is unknown. -/
theorem IsWhole.record_cases (hs : s.IsWhole P) (id : UInt64) :
    (∃ r, s.record id = .ok r ∧ P r.bot r.posts) ∨ s.record id = .error .notFound := by
  rcases hs.hash_cases (userKey id) with hnone | hwhole
  · right
    rw [record, hnone]
    rfl
  · exact hwhole.ofHash_cases id

theorem IsWhole.of_record (hs : s.IsWhole P) {id : UInt64} {r : UserRecord}
    (hr : s.record id = .ok r) : Hash.IsWhole P (s.hash (userKey id)) := by
  rcases hs.hash_cases (userKey id) with hnone | hwhole
  · rw [record, hnone] at hr
    cases hr
  · exact hwhole

/-- A store stays whole if the hash that is written is whole afterwards. -/
theorem IsWhole.write (hs : s.IsWhole P) {key : String} {fields : List (String × String)}
    (h : Hash.IsWhole P ((s.hash key).setAll fields)) : (s.write key fields).IsWhole P := by
  intro other hash hget
  rw [Store.write, Table.get?_set] at hget
  split at hget
  · cases hget
    exact h
  · exact hs other hash hget

/-- **Whatever an operation may do keeps a store whole**, if new records are as they should be and
changes keep them so. -/
theorem IsWhole.advances (hs : s.IsWhole P) {New : User → Prop}
    {Change : UserRecord → UserUpdate → Prop} (h : s.Advances New Change t)
    (hnew : ∀ user, New user → P user.bot 1)
    (hchange : ∀ r u, Change r u → P r.bot r.posts →
      P (u.bot.getD r.bot) (u.posts.getD r.posts)) : t.IsWhole P := by
  cases h with
  | same => exact hs
  | @made user hn now =>
      refine hs.write ?_
      rcases hs.hash_cases (userKey user.id) with hnone | hwhole
      · rw [hnone]
        exact Hash.isWhole_setAll_ofNewUser (hnew user hn) now
      · exact hwhole.setAll_fields fun _ _ _ _ _ => hnew user hn
  | @changed id r u hr hu =>
      refine hs.write ((hs.of_record hr).setAll_fields fun bot posts hP hbot hposts => ?_)
      -- The flag and the counter of the hash are those of the record that was found.
      obtain ⟨-, -, -, hrbot, hrposts, -⟩ := ofHash_eq_ok_iff.1 hr
      rw [hbot] at hrbot
      rw [hposts] at hrposts
      cases hrbot
      cases hrposts
      exact hchange r u hu hP

/-! ### Reading -/

/-- **What can be read in a store without broken records.** -/
structure IsSound (P : Bool → UInt64 → Prop) (s : Store) : Prop where
  /-- Every hash has the fields of a record, and no others. -/
  names : ∀ key h, s.get? key = some h → ∀ name,
    (h.get? name).isSome = true ↔ name ∈ ["username", "isBot", "posts", "lastSeen"]
  /-- The flag is a digit and the counter is a numeral. -/
  values : ∀ key h, s.get? key = some h → ∃ (bot : Bool) (posts : UInt64), P bot posts ∧
    h.get? "isBot" = some (if bot then "1" else "0") ∧
      h.get? "posts" = some posts.toNat.repr
  /-- Every user has a record or is unknown. -/
  found : ∀ id, (∃ r, (Users.find id).run answer s = (.ok r, s) ∧ P r.bot r.posts) ∨
    (Users.find id).run answer s = (.error .notFound, s)
  /-- No record is unreadable, also if requests fail. -/
  readable : ∀ id faults field value,
    ((Users.find id).run answerOrFail (s, faults)).1 ≠ .error (.malformed field value)

/-- **A whole store can be read.** -/
theorem IsWhole.isSound (hs : s.IsWhole P) : s.IsSound P where
  names key h hget name := by
    obtain ⟨username, bot, posts, seen, -, hfields⟩ := hs key h hget
    rw [hfields]
    exact UserUpdate.isSome_value?_whole
  values key h hget := by
    obtain ⟨username, bot, posts, seen, hP, hfields⟩ := hs key h hget
    exact ⟨bot, posts, hP, hfields botField, hfields postsField⟩
  found id := by
    rw [Users.run_find]
    rcases hs.record_cases id with ⟨r, hr, hP⟩ | hr
    · exact .inl ⟨r, by rw [hr], hP⟩
    · exact .inr (by rw [hr])
  readable id faults field value := by
    rcases Users.run_find_cases s faults id with h | ⟨detail, h⟩
    · rw [h]
      rcases hs.record_cases id with ⟨r, hr, -⟩ | hr
      · rw [hr]
        exact nofun
      · rw [hr]
        exact nofun
    · rw [h]
      exact nofun

end Store

/-! ### Operations one after another -/

namespace Users

/-- An operation that may write. -/
inductive Call where
  | get (now : Timestamp) (user : User) (createMissing : Bool)
  | set (id : UInt64) (update : UserUpdate)
  | recordPost (now : Timestamp) (user : User)
deriving DecidableEq, Repr

/-- The store after an operation during which requests may fail. -/
def Call.after (s : Store) (faults : Faults) : Call → Store
  | .get now user createMissing =>
      ((Users.get now user createMissing).run Store.answerOrFail (s, faults)).2.1
  | .set id update => ((Users.set id update).run Store.answerOrFail (s, faults)).2.1
  | .recordPost now user => ((Users.recordPost now user).run Store.answerOrFail (s, faults)).2.1

/-- **The store after some operations**, each with the failures that it meets with. -/
def afterCalls (calls : List (Call × Faults)) (s : Store) : Store :=
  calls.foldl (fun s call => call.1.after s call.2) s

theorem Call.isWhole_after {s : Store} (hs : s.IsWhole fun _ _ => True) (call : Call)
    (faults : Faults) : (call.after s faults).IsWhole fun _ _ => True := by
  cases call with
  | get now user createMissing =>
      exact hs.advances (get_advances s faults now user createMissing) (fun _ _ => trivial)
        fun _ _ _ _ => trivial
  | set id update =>
      exact hs.advances (set_advances s faults id update) (fun _ _ => trivial)
        fun _ _ _ _ => trivial
  | recordPost now user =>
      exact hs.advances (recordPost_advances s faults now user) (fun _ _ => trivial)
        fun _ _ _ _ => trivial

/-- **No sequence of operations breaks a record.** -/
theorem isWhole_afterCalls {s : Store} (hs : s.IsWhole fun _ _ => True)
    (calls : List (Call × Faults)) : (afterCalls calls s).IsWhole fun _ _ => True := by
  induction calls generalizing s with
  | nil => exact hs
  | cons call rest ih => exact ih (call.1.isWhole_after hs call.2)

end Users

end CommandBot
