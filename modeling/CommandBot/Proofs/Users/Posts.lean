/-
**One more command of a user.**

Recording a command is a read and a write, or two reads, a write and a read.  On a store without
faults that nobody else writes to, the whole of it comes to one write at most: the next count for a
user with a record, a new record for a user without one, and nothing if the record cannot be read.

Main definitions:

* `CommandBot.Store.record` — the record of a user in a store;
* `CommandBot.Store.postCount` — the number of commands that it shows;
* `CommandBot.Store.afterPost` — **the store after one more command of a user.**

Main results:

* `CommandBot.Users.run_recordPost` — recording a command leads from a store to `afterPost`, by way
  of no third store;
* `CommandBot.Store.record_afterPost` — it counts exactly one command;
* `CommandBot.Store.get?_afterPost_of_ne` — and touches no other key.
-/

import CommandBot.Proofs.Program.Exchanges
import CommandBot.Proofs.Users.Fields
import CommandBot.Store.Users

set_option relaxedAutoImplicit false
set_option autoImplicit false

namespace CommandBot

/-! ### The greatest count -/

namespace Users

/-- The greatest count that a record can show. -/
def maxCount : Nat := UInt64.size - 1

/-- The next count is one more, up to the greatest. -/
theorem toNat_nextCount (n : UInt64) : (nextCount n).toNat = min (n.toNat + 1) maxCount := by
  have hlt : n.toNat < UInt64.size := n.toNat_lt
  unfold nextCount maxCount
  split
  · next h =>
      rw [UInt64.toNat_add, UInt64.toNat_one, Nat.mod_eq_of_lt h]
      omega
  · omega

theorem toNat_le_maxCount (n : UInt64) : n.toNat ≤ maxCount := by
  have hlt : n.toNat < UInt64.size := n.toNat_lt
  unfold maxCount
  omega

end Users

/-! ### The record in a store -/

namespace Store

/-- The record of a user in a store. -/
def record (s : Store) (id : UInt64) : Except StoreError UserRecord :=
  UserRecord.ofHash id (s.hash (userKey id))

theorem ofHash_hash (s : Store) (id : UInt64) :
    UserRecord.ofHash id (s.hash (userKey id)) = s.record id := rfl

/-- The number of commands that the record of a user shows; without one it is zero. -/
def postCount (s : Store) (id : UInt64) : Nat :=
  match s.record id with
  | .ok r => r.posts.toNat
  | .error _ => 0

theorem postCount_le_maxCount (s : Store) (id : UInt64) : s.postCount id ≤ Users.maxCount := by
  unfold postCount
  split
  · next r _ => exact Users.toNat_le_maxCount r.posts
  · exact Nat.zero_le _

/-- A user whose hash has a name but not the rest of a record. -/
def IsUnreadable (s : Store) (id : UInt64) : Prop :=
  ∃ name text, s.record id = .error (.malformed name text)

theorem not_isUnreadable_of_ok {s : Store} {id : UInt64} {r : UserRecord}
    (h : s.record id = .ok r) : ¬ s.IsUnreadable id := by
  rintro ⟨name, text, he⟩
  rw [h] at he
  cases he

theorem not_isUnreadable_of_notFound {s : Store} {id : UInt64}
    (h : s.record id = .error .notFound) : ¬ s.IsUnreadable id := by
  rintro ⟨name, text, he⟩
  rw [h] at he
  cases he

/-- **The store after one more command of a user.** -/
def afterPost (s : Store) (now : Timestamp) (user : User) : Store :=
  match s.record user.id with
  | .ok r =>
      s.write (userKey user.id) (UserUpdate.ofPost user (Users.nextCount r.posts) now).fields
  | .error .notFound => s.write (userKey user.id) (UserUpdate.ofNewUser user now).fields
  | .error _ => s

variable {s : Store} {now : Timestamp} {user : User}

theorem afterPost_of_ok {r : UserRecord} (h : s.record user.id = .ok r) :
    s.afterPost now user =
      s.write (userKey user.id) (UserUpdate.ofPost user (Users.nextCount r.posts) now).fields := by
  simp only [afterPost, h]

theorem afterPost_of_notFound (h : s.record user.id = .error .notFound) :
    s.afterPost now user =
      s.write (userKey user.id) (UserUpdate.ofNewUser user now).fields := by
  simp only [afterPost, h]

theorem afterPost_of_isUnreadable (h : s.IsUnreadable user.id) : s.afterPost now user = s := by
  obtain ⟨name, text, h⟩ := h
  simp only [afterPost, h]

/-- A user has a record, is unknown, or has a hash that cannot be read. -/
theorem record_cases (s : Store) (id : UInt64) :
    (∃ r, s.record id = .ok r) ∨ s.record id = .error .notFound ∨ s.IsUnreadable id := by
  cases h : s.record id with
  | ok r => exact .inl ⟨r, rfl⟩
  | error e =>
      rcases UserRecord.ofHash_error h with ⟨rfl, -⟩ | ⟨⟨name, text, rfl⟩, -⟩
      · exact .inr (.inl rfl)
      · exact .inr (.inr ⟨name, text, h⟩)

theorem get?_write_of_ne {key other : String} {fields : List (String × String)}
    (h : key ≠ other) : (s.write key fields).get? other = s.get? other :=
  Table.get?_set_of_ne h

/-- No key but the author's is touched. -/
theorem get?_afterPost_of_ne {key : String} (h : userKey user.id ≠ key) :
    (s.afterPost now user).get? key = s.get? key := by
  unfold afterPost
  split
  · exact get?_write_of_ne h
  · exact get?_write_of_ne h
  · rfl

theorem record_congr {t : Store} {id : UInt64}
    (h : t.get? (userKey id) = s.get? (userKey id)) : t.record id = s.record id := by
  simp only [record, hash, h]

/-- **One more command is counted**, under the name that the author has now, unless the author's
record cannot be read. -/
theorem record_afterPost (now : Timestamp) (hname : user.username ≠ "")
    (h : ¬ s.IsUnreadable user.id) :
    ∃ r, (s.afterPost now user).record user.id = .ok r ∧ r.username = user.username ∧
      r.posts.toNat = min (s.postCount user.id + 1) Users.maxCount := by
  rcases record_cases s user.id with ⟨r, hr⟩ | hr | hr
  · have hafter := UserRecord.ofHash_post hr hname (Users.nextCount r.posts) now
    rw [← hash_write_self, ← afterPost_of_ok hr] at hafter
    refine ⟨_, hafter, rfl, ?_⟩
    simp only [postCount, hr]
    exact Users.toNat_nextCount r.posts
  · have hafter := UserRecord.ofHash_newUser user.id (s.hash (userKey user.id)) hname now
    rw [← hash_write_self, ← afterPost_of_notFound hr] at hafter
    refine ⟨_, hafter, rfl, ?_⟩
    simp [postCount, hr, Users.maxCount]
  · exact absurd hr h

/-- A command under an empty name leaves a record that is nobody's. -/
theorem record_afterPost_nameless (now : Timestamp) (hname : user.username = "")
    (h : ¬ s.IsUnreadable user.id) :
    (s.afterPost now user).record user.id = .error .notFound := by
  rcases record_cases s user.id with ⟨r, hr⟩ | hr | hr
  · rw [record, afterPost_of_ok hr, hash_write_self]
    exact UserRecord.ofHash_nameless user.id _ (congrArg some hname)
  · rw [record, afterPost_of_notFound hr, hash_write_self]
    exact UserRecord.ofHash_nameless user.id _ (congrArg some hname)
  · exact absurd hr h

/-- The other users keep their records. -/
theorem hash_afterPost_of_ne (s : Store) (now : Timestamp) {id : UInt64} (h : user.id ≠ id) :
    (s.afterPost now user).hash (userKey id) = s.hash (userKey id) := by
  simp only [hash, get?_afterPost_of_ne fun hkey => h (userKey_injective hkey)]

/-- Commands make no hash unreadable. -/
theorem not_isUnreadable_afterPost (now : Timestamp) (user : User) {id : UInt64}
    (h : ¬ s.IsUnreadable id) : ¬ (s.afterPost now user).IsUnreadable id := by
  by_cases hid : user.id = id
  · subst hid
    by_cases hname : user.username = ""
    · exact not_isUnreadable_of_notFound (record_afterPost_nameless now hname h)
    · obtain ⟨r, hr, -, -⟩ := record_afterPost now hname h
      exact not_isUnreadable_of_ok hr
  · rintro ⟨field, text, he⟩
    rw [record, hash_afterPost_of_ne s now hid] at he
    exact h ⟨field, text, he⟩

end Store

/-! ### The operation -/

namespace Users

open Program

variable (s : Store) (now : Timestamp) (user : User)

@[simp] theorem run_readHash (id : UInt64) :
    (readHash id).run Store.answer s = (.ok (s.hash (userKey id)), s) := rfl

@[simp] theorem states_readHash (id : UInt64) : (readHash id).states Store.answer s = [s] := rfl

@[simp] theorem run_find (id : UInt64) : (find id).run Store.answer s = (s.record id, s) := rfl

@[simp] theorem states_find (id : UInt64) : (find id).states Store.answer s = [s] := rfl

@[simp] theorem run_writeFields (id : UInt64) (fields : List (String × String)) :
    (writeFields id fields).run Store.answer s = (.ok (), s.write (userKey id) fields) := rfl

@[simp] theorem states_writeFields (id : UInt64) (fields : List (String × String)) :
    (writeFields id fields).states Store.answer s = [s.write (userKey id) fields] := rfl

theorem fields_isEmpty_ofPost (posts : UInt64) :
    (UserUpdate.ofPost user posts now).fields.isEmpty = false := rfl

/-- **Recording a command leads to `afterPost`**, by way of no third store. -/
theorem run_recordPost :
    ((recordPost now user).run Store.answer s).2 = s.afterPost now user ∧
      ∃ before after, (recordPost now user).states Store.answer s =
        List.replicate before s ++ List.replicate after (s.afterPost now user) := by
  rcases s.record_cases user.id with ⟨r, hr⟩ | hr | hr
  · rw [Store.afterPost_of_ok hr]
    simp only [recordPost, countPost, set, run_bind, states_bind, run_find, states_find, hr,
      fields_isEmpty_ofPost, Bool.false_eq_true, if_false, run_writeFields, states_writeFields,
      run_done, states_done, true_and]
    exact ⟨2, 1, rfl⟩
  · rw [Store.afterPost_of_notFound hr]
    simp only [recordPost, get, create, run_bind, states_bind, run_find, states_find, run_readHash,
      states_readHash, Store.ofHash_hash, hr, if_true, run_writeFields, states_writeFields, true_and]
    exact ⟨2, 2, rfl⟩
  · rw [Store.afterPost_of_isUnreadable hr]
    obtain ⟨name, text, hr⟩ := hr
    simp only [recordPost, run_bind, states_bind, run_find, states_find, hr, run_done, states_done,
      true_and]
    exact ⟨1, 0, rfl⟩

end Users

end CommandBot
