/-
**The record of a user.**

The store keeps a user as a hash of four fields.  A hash without a name is no record.  A flag or a
counter that cannot be read makes the record unreadable; a moment that cannot be read counts as
absent.

* `CommandBot.User` — a user as a message names them;
* `CommandBot.UserRecord` — what is kept of a user;
* `CommandBot.UserRecord.ofHash` — the record that a hash holds;
* `CommandBot.UserUpdate` — new values for some fields;
* `CommandBot.UserUpdate.fields` — how they are written;
* `CommandBot.userKey` — the key of a user's hash.
-/

import CommandBot.Store.Request
import CommandBot.Text.Decimal
import CommandBot.Time.Rfc3339

set_option relaxedAutoImplicit false
set_option autoImplicit false

namespace CommandBot

/-! ### Users -/

/-- A user as a message names them. -/
structure User where
  id : UInt64
  username : String
  /-- Whether the user is a program. -/
  bot : Bool
deriving DecidableEq, Repr

/-- The key of a user's hash. -/
def userKey (id : UInt64) : String := "user:" ++ id.toNat.repr

/-- Different users have different keys. -/
theorem userKey_injective {a b : UInt64} (h : userKey a = userKey b) : a = b := by
  have digits := congrArg String.toList h
  simp only [userKey, String.toList_append, List.append_cancel_left_eq, Nat.toList_repr] at digits
  exact UInt64.toNat_inj.1 (Text.Decimal.toDigits_injective digits)

/-! ### Fields -/

namespace UserRecord

def usernameField : String := "username"
def botField : String := "isBot"
def postsField : String := "posts"
def lastSeenField : String := "lastSeen"

/-- The flag that a field shows; an absent field shows `false`. -/
def readBot : Option String → Except StoreError Bool
  | none => .ok false
  | some text =>
      if text = "" ∨ text = "0" ∨ text = "false" then .ok false
      else if text = "1" ∨ text = "true" then .ok true
      else .error (.malformed botField text)

/-- The counter that a field shows; an absent field shows zero. -/
def readPosts : Option String → Except StoreError UInt64
  | none => .ok 0
  | some text =>
      match Text.Decimal.readUnsigned? UInt64.size text.toList with
      | some n => .ok (UInt64.ofNat n)
      | none => .error (.malformed postsField text)

/-- The moment that a field shows, if it shows one. -/
def readLastSeen : Option String → Option Timestamp
  | none => none
  | some text => Timestamp.read? text

end UserRecord

/-! ### Records -/

/-- What is kept of a user. -/
structure UserRecord where
  id : UInt64
  username : String
  bot : Bool
  /-- The number of commands the user has sent. -/
  posts : UInt64
  /-- When the user last sent one. -/
  lastSeen : Option Timestamp
deriving DecidableEq, Repr

/-- **The record that a hash holds.** -/
def UserRecord.ofHash (id : UInt64) (hash : Hash) : Except StoreError UserRecord :=
  let username := (hash.get? usernameField).getD ""
  if username.isEmpty then .error .notFound
  else
    match readBot (hash.get? botField) with
    | .error e => .error e
    | .ok bot =>
        match readPosts (hash.get? postsField) with
        | .error e => .error e
        | .ok posts => .ok ⟨id, username, bot, posts, readLastSeen (hash.get? lastSeenField)⟩

/-! ### Updates -/

/-- New values for some fields of a record; the others are left alone. -/
structure UserUpdate where
  username : Option String
  bot : Option Bool
  posts : Option UInt64
  lastSeen : Option Timestamp
deriving DecidableEq, Repr

namespace UserUpdate

open UserRecord

/-- The update that changes nothing. -/
def unchanged : UserUpdate := ⟨none, none, none, none⟩

/-- A flag as text. -/
def botText (bot : Bool) : String := if bot then "1" else "0"

/-- An optional text as a field. -/
def field (name : String) (value : Option String) : List (String × String) :=
  match value with
  | none => []
  | some text => [(name, text)]

/-- **How an update is written**: the fields it gives, in a fixed order. -/
def fields (u : UserUpdate) : List (String × String) :=
  field usernameField u.username ++ field botField (u.bot.map botText) ++
    field postsField (u.posts.map fun n => n.toNat.repr) ++
    field lastSeenField (u.lastSeen.map Timestamp.text)

end UserUpdate

/-- The update that a new user's hash begins with: one command, sent now. -/
def UserUpdate.ofNewUser (user : User) (now : Timestamp) : UserUpdate :=
  ⟨some user.username, some user.bot, some 1, some now⟩

/-- The update for one more command of a known user. -/
def UserUpdate.ofPost (user : User) (posts : UInt64) (now : Timestamp) : UserUpdate :=
  ⟨some user.username, none, some posts, some now⟩

end CommandBot
