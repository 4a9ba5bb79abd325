/-
**What a hash holds after an update.**

An update names the fields it gives; the others stay as they were.  From this follows which record
the hash holds afterwards: the update of a known user leaves the flag as it was, and the update that
a new user's hash begins with makes a record of whatever was left there.  Either makes the hash
nobody's if the name it gives is empty.

Main definitions:

* `CommandBot.UserUpdate.value?` — the text that an update gives for a field.

Main results:

* `CommandBot.UserUpdate.get?_setAll_fields` — **what each field holds after an update**;
* `CommandBot.UserRecord.ofHash_eq_ok_iff`, `CommandBot.UserRecord.ofHash_eq_notFound_iff` — when a
  hash holds a record, and when it is nobody's;
* `CommandBot.UserRecord.ofHash_post`, `CommandBot.UserRecord.ofHash_newUser` — the record after
  one more command and the record of a new user.
-/

import CommandBot.Proofs.Text.Decimal
import CommandBot.Store.Record

set_option relaxedAutoImplicit false
set_option autoImplicit false

namespace CommandBot

/-! ### Fields after an update -/

namespace UserUpdate

open UserRecord

/-- The text that an update gives for a field, if it gives one. -/
def value? (u : UserUpdate) (name : String) : Option String :=
  if name = usernameField then u.username
  else if name = botField then u.bot.map botText
  else if name = postsField then u.posts.map fun n => n.toNat.repr
  else if name = lastSeenField then u.lastSeen.map Timestamp.text
  else none

theorem get?_setAll_field (h : Hash) (name other : String) (value : Option String) :
    (h.setAll (field name value)).get? other =
      if name = other then value.or (h.get? other) else h.get? other := by
  cases value with
  | none => simp [field]
  | some text => simp [field, Table.get?_set]

/-- **What each field holds after an update.** -/
theorem get?_setAll_fields (u : UserUpdate) (h : Hash) (name : String) :
    (h.setAll u.fields).get? name = (u.value? name).or (h.get? name) := by
  have hb : usernameField ≠ botField := by decide
  have hp : usernameField ≠ postsField := by decide
  have hl : usernameField ≠ lastSeenField := by decide
  have hbp : botField ≠ postsField := by decide
  have hbl : botField ≠ lastSeenField := by decide
  have hpl : postsField ≠ lastSeenField := by decide
  simp only [fields, Table.setAll_append, get?_setAll_field, value?]
  by_cases h₁ : name = usernameField
  · subst h₁
    simp [hb.symm, hp.symm, hl.symm]
  by_cases h₂ : name = botField
  · subst h₂
    simp [hb, hbp.symm, hbl.symm, h₁]
  by_cases h₃ : name = postsField
  · subst h₃
    simp [hp, hbp, hpl.symm, h₁, h₂]
  by_cases h₄ : name = lastSeenField
  · subst h₄
    simp [hl, hbl, hpl, h₁, h₂, h₃]
  · simp [Ne.symm h₁, Ne.symm h₂, Ne.symm h₃, Ne.symm h₄, h₁, h₂, h₃, h₄]

end UserUpdate

/-! ### Records of a hash -/

namespace UserRecord

@[simp] theorem readBot_botText (bot : Bool) :
    readBot (some (UserUpdate.botText bot)) = .ok bot := by
  cases bot <;> rfl

@[simp] theorem readPosts_repr (n : UInt64) : readPosts (some n.toNat.repr) = .ok n := by
  simp only [readPosts, Text.Decimal.readUnsigned?_repr n.toNat_lt, UInt64.ofNat_toNat]

/-- **When a hash holds a record.** -/
theorem ofHash_eq_ok_iff {id : UInt64} {h : Hash} {r : UserRecord} :
    ofHash id h = .ok r ↔ r.id = id ∧ h.get? usernameField = some r.username ∧ r.username ≠ "" ∧
      readBot (h.get? botField) = .ok r.bot ∧ readPosts (h.get? postsField) = .ok r.posts ∧
        r.lastSeen = readLastSeen (h.get? lastSeenField) := by
  constructor
  · intro hr
    simp only [ofHash] at hr
    split at hr
    · cases hr
    · next hname =>
        split at hr
        · cases hr
        · next bot hbot =>
            split at hr
            · cases hr
            · next posts hposts =>
                cases hr
                cases hu : h.get? usernameField with
                | none => simp [hu] at hname
                | some name => simpa [hu, hbot, hposts] using hname
  · rintro ⟨hid, hname, hne, hbot, hposts, hseen⟩
    obtain ⟨id', username, bot, posts, lastSeen⟩ := r
    simp_all [ofHash]

theorem readBot_error {value : Option String} {e : StoreError} (h : readBot value = .error e) :
    ∃ text, e = .malformed botField text := by
  cases value with
  | none => cases h
  | some text =>
      simp only [readBot] at h
      split at h
      · cases h
      · split at h
        · cases h
        · cases h
          exact ⟨text, rfl⟩

theorem readPosts_error {value : Option String} {e : StoreError}
    (h : readPosts value = .error e) : ∃ text, e = .malformed postsField text := by
  cases value with
  | none => cases h
  | some text =>
      simp only [readPosts] at h
      split at h
      · cases h
      · cases h
        exact ⟨text, rfl⟩

/-- A hash without a record is nobody's, or a field of it cannot be read. -/
theorem ofHash_error {id : UInt64} {h : Hash} {e : StoreError} (hr : ofHash id h = .error e) :
    e = .notFound ∧ (h.get? usernameField).getD "" = "" ∨
      (∃ name text, e = .malformed name text) ∧ (h.get? usernameField).getD "" ≠ "" := by
  simp only [ofHash] at hr
  split at hr
  · next hname =>
      cases hr
      exact .inl ⟨rfl, by simpa using hname⟩
  · next hname =>
      refine .inr ⟨?_, by simpa using hname⟩
      split at hr
      · next e' hbot =>
          cases hr
          obtain ⟨text, rfl⟩ := readBot_error hbot
          exact ⟨_, text, rfl⟩
      · split at hr
        · next e' hposts =>
            cases hr
            obtain ⟨text, rfl⟩ := readPosts_error hposts
            exact ⟨_, text, rfl⟩
        · cases hr

/-- **When a hash is nobody's**: its name is absent or empty. -/
theorem ofHash_eq_notFound_iff {id : UInt64} {h : Hash} :
    ofHash id h = .error .notFound ↔ (h.get? usernameField).getD "" = "" := by
  constructor
  · intro hr
    rcases ofHash_error hr with ⟨-, hname⟩ | ⟨⟨name, text, he⟩, -⟩
    · exact hname
    · cases he
  · intro hname
    simp [ofHash, hname]

/-! ### Records after an update -/

/-- **One more command of a known user** changes the name, the counter and the moment. -/
theorem ofHash_post {id : UInt64} {h : Hash} {r : UserRecord} (hr : ofHash id h = .ok r)
    {user : User} (hname : user.username ≠ "") (posts : UInt64) (now : Timestamp) :
    ofHash id (h.setAll (UserUpdate.ofPost user posts now).fields) =
      .ok { r with
        username := user.username, posts := posts, lastSeen := Timestamp.read? now.text } := by
  obtain ⟨hid, -, -, hbot, -, -⟩ := ofHash_eq_ok_iff.1 hr
  rw [ofHash_eq_ok_iff]
  simp only [UserUpdate.get?_setAll_fields]
  exact ⟨hid, rfl, hname, hbot, readPosts_repr posts, rfl⟩

/-- **The first command of a new user** makes a record of whatever the hash held. -/
theorem ofHash_newUser (id : UInt64) (h : Hash) {user : User} (hname : user.username ≠ "")
    (now : Timestamp) :
    ofHash id (h.setAll (UserUpdate.ofNewUser user now).fields) =
      .ok ⟨id, user.username, user.bot, 1, Timestamp.read? now.text⟩ := by
  rw [ofHash_eq_ok_iff]
  simp only [UserUpdate.get?_setAll_fields, true_and]
  exact ⟨rfl, hname, readBot_botText user.bot, readPosts_repr 1, rfl⟩

/-- An update that gives an empty name makes the hash nobody's. -/
theorem ofHash_nameless (id : UInt64) (h : Hash) {u : UserUpdate} (hname : u.username = some "") :
    ofHash id (h.setAll u.fields) = .error .notFound := by
  rw [ofHash_eq_notFound_iff, UserUpdate.get?_setAll_fields]
  simp [UserUpdate.value?, hname]

end UserRecord

end CommandBot
