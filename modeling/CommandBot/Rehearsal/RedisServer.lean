/-
**A store server to rehearse with.**

The server keeps hashes and the commands that it got.  It refuses every command on some keys.

* `CommandBot.Rehearsal.Network` — a network that carries everything, or nothing;
* `CommandBot.Rehearsal.RedisServer` — the server;
* `CommandBot.Rehearsal.RedisServer.answer` — what it answers to a request;
* `CommandBot.Rehearsal.RedisServer.connect` — the server after a connection was made;
* `CommandBot.Rehearsal.RedisServer.steps` — **operations on records, one after another.**
-/

import CommandBot.Redis.Command
import CommandBot.Store.Users

set_option relaxedAutoImplicit false
set_option autoImplicit false

namespace CommandBot.Rehearsal

/-! ### The network -/

/-- A network that carries everything, or nothing. -/
inductive Network where
  | up
  | down
deriving DecidableEq, Repr

namespace Network

/-- Whether the network carries anything. -/
def isUp : Network → Bool
  | up => true
  | down => false

/-- Why the store cannot be reached at an address, if it cannot. -/
def refusal? : Network → Redis.Address → Option StoreError
  | up, _ => none
  | down, .server _ _ => some (.backend "Network is unreachable (os error 101)")
  | down, .socket _ => some (.backend "No such file or directory (os error 2)")

end Network

/-! ### Operations -/

/-- An operation on records. -/
inductive Operation where
  | find (id : UInt64)
  | get (user : User) (createMissing : Bool)
  | set (id : UInt64) (update : UserUpdate)
  | recordPost (user : User)

/-- What an operation gives: a record or nothing. -/
abbrev Operated := Except StoreError (Option UserRecord)

/-- An operation as a program. -/
def Operation.program (now : Timestamp) : Operation → Program StoreRequest.Answer Operated
  | .find id => (Users.find id).bind fun result => .done (result.map some)
  | .get user createMissing =>
      (Users.get now user createMissing).bind fun result => .done (result.map some)
  | .set id update => (Users.set id update).bind fun result => .done (result.map fun () => none)
  | .recordPost user => (Users.recordPost now user).bind fun result => .done (result.map some)

/-! ### The server -/

/-- The server. -/
structure RedisServer where
  hashes : Store
  /-- The keys on which every command is refused. -/
  refused : List String
  /-- The commands that it got, in order. -/
  commands : List Redis.Command

namespace RedisServer

/-- What a refused command is told. -/
def refusal : StoreError :=
  .backend "WRONGTYPE: Operation against a key holding the wrong kind of value"

/-- **What the server answers to a request**, and the server after it. -/
def answer (r : StoreRequest) (s : RedisServer) : r.Answer × RedisServer :=
  let s := { s with commands := s.commands ++ [.ofRequest r] }
  if s.refused.contains r.key then (r.fail refusal, s)
  else
    let answered := Store.answer r s.hashes
    (answered.1, { s with hashes := answered.2 })

/-- The server after a connection was made, or why none can be made. -/
def connect (network : Network) (url : String) (password : Option String) (s : RedisServer) :
    Except StoreError RedisServer :=
  match Redis.Connection.ofUrl url password with
  | .error fault => .error fault.toStoreError
  | .ok connection =>
      match network.refusal? connection.address with
      | some e => .error e
      | none => .ok { s with commands := connection.greeting }

/-- **Operations one after another**: what each gives, with the commands that it took, and the
server after the last. -/
def steps (now : Timestamp) :
    List Operation → RedisServer → List (Operated × List Redis.Command) × RedisServer
  | [], s => ([], s)
  | operation :: rest, s =>
      let operated := (operation.program now).run answer { s with commands := [] }
      let rested := steps now rest operated.2
      ((operated.1, operated.2.commands) :: rested.1, rested.2)

end RedisServer

end CommandBot.Rehearsal
