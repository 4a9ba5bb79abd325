/-
**What is asked of the store.**

The store keeps one hash of fields under each key.  The bot asks for two things only: a whole hash,
and that some fields of a hash be set.  A key without a hash reads as the hash without fields.

* `CommandBot.Hash` — a hash of fields;
* `CommandBot.StoreRequest` — the two requests;
* `CommandBot.Store` — a store that never fails;
* `CommandBot.Store.answer` — what such a store answers.
-/

import CommandBot.Failure
import CommandBot.Table

set_option relaxedAutoImplicit false
set_option autoImplicit false

namespace CommandBot

/-- The fields under one key. -/
abbrev Hash := Table String

/-! ### Requests -/

/-- What is asked of the store. -/
inductive StoreRequest where
  /-- All fields under a key. -/
  | getAll (key : String)
  /-- Some fields under a key are to have new values. -/
  | setFields (key : String) (fields : List (String × String))
deriving DecidableEq, Repr

/-- What answers a request: fields for a read, nothing for a write, or a failure. -/
def StoreRequest.Answer : StoreRequest → Type
  | getAll _ => Except StoreError Hash
  | setFields _ _ => Except StoreError Unit

/-- The answer that is a failure. -/
def StoreRequest.fail (e : StoreError) : (r : StoreRequest) → r.Answer
  | getAll _ => .error e
  | setFields _ _ => .error e

/-- The key that a request is about. -/
def StoreRequest.key : StoreRequest → String
  | getAll key => key
  | setFields key _ => key

/-! ### The faultless store -/

/-- The hashes under all keys. -/
abbrev Store := Table Hash

namespace Store

/-- The hash under a key; it is empty if nothing was written there. -/
def hash (s : Store) (key : String) : Hash := (s.get? key).getD Table.empty

/-- The store with some fields under a key set, the others left alone. -/
def write (s : Store) (key : String) (fields : List (String × String)) : Store :=
  s.set key ((s.hash key).setAll fields)

/-- What a store without faults answers, and what it holds afterwards. -/
def answer : (r : StoreRequest) → Store → r.Answer × Store
  | .getAll key, s => (.ok (s.hash key), s)
  | .setFields key fields, s => (.ok (), s.write key fields)

@[simp] theorem hash_write_self (s : Store) (key : String) (fields : List (String × String)) :
    (s.write key fields).hash key = (s.hash key).setAll fields := by
  simp [hash, write]

end Store

end CommandBot
