/-
**The records of the users.**

Four operations on records, as programs over the requests of the store.  None of them is a
transaction: between a read and the write that follows it anyone may write.

* `CommandBot.Users.find` — the record of a user;
* `CommandBot.Users.get` — the same, made if there is none;
* `CommandBot.Users.set` — new values for a known user;
* `CommandBot.Users.recordPost` — **one more command of a user**.
-/

import CommandBot.Program
import CommandBot.Store.Record

set_option relaxedAutoImplicit false
set_option autoImplicit false

namespace CommandBot.Users

/-- A program over the requests of the store that may fail. -/
abbrev StoreTask (α : Type) := Program StoreRequest.Answer (Except StoreError α)

/-- The hash under the key of a user. -/
def readHash (id : UInt64) : StoreTask Hash := .ask (.getAll (userKey id)) .done

/-- New fields under the key of a user. -/
def writeFields (id : UInt64) (fields : List (String × String)) : StoreTask Unit :=
  .ask (.setFields (userKey id) fields) .done

/-- The one count after another; the greatest stays. -/
def nextCount (n : UInt64) : UInt64 := if n.toNat + 1 < UInt64.size then n + 1 else n

/-! ### Reading -/

/-- **The record of a user.** -/
def find (id : UInt64) : StoreTask UserRecord :=
  (readHash id).bind fun
    | .error e => .done (.error e)
    | .ok hash => .done (UserRecord.ofHash id hash)

/-- The first record of a new user, as it reads after it was written. -/
def create (user : User) (now : Timestamp) : StoreTask UserRecord :=
  (writeFields user.id (UserUpdate.ofNewUser user now).fields).bind fun
    | .error e => .done (.error e)
    | .ok () => find user.id

/-- The record of a user; one who is missing is made if `createMissing` is set.  Missing is who has
no record in the hash that was read; an error of the store itself is told as it is. -/
def get (now : Timestamp) (user : User) (createMissing : Bool) : StoreTask UserRecord :=
  (readHash user.id).bind fun
    | .error e => .done (.error e)
    | .ok hash =>
        match UserRecord.ofHash user.id hash with
        | .error .notFound => if createMissing then create user now else .done (.error .notFound)
        | result => .done result

/-! ### Writing -/

/-- New values for a user who has a record.  An update that changes nothing writes nothing. -/
def set (id : UInt64) (update : UserUpdate) : StoreTask Unit :=
  (find id).bind fun
    | .error e => .done (.error e)
    | .ok _ =>
        if update.fields.isEmpty then .done (.ok ()) else writeFields id update.fields

/-- One more command of a user whose record was just read. -/
def countPost (now : Timestamp) (user : User) (record : UserRecord) : StoreTask UserRecord :=
  let posts := nextCount record.posts
  (set user.id (.ofPost user posts now)).bind fun
    | .error e => .done (.error e)
    | .ok () =>
        .done (.ok
          { record with username := user.username, posts := posts, lastSeen := some now })

/-- **One more command of a user**, whose record is made if there is none. -/
def recordPost (now : Timestamp) (user : User) : StoreTask UserRecord :=
  (find user.id).bind fun
    | .ok record => countPost now user record
    | .error .notFound => get now user true
    | .error e => .done (.error e)

end CommandBot.Users
