/-
**What the bot asks for while it answers a message.**

Four services stand beside the bot: the store, the image board, the host it runs on and the files
of its own directory.  Two further questions are about the author of the message, and only the chat
service can answer them.

* `CommandBot.Service` — what is asked of a service;
* `CommandBot.Request` — what is asked while a message is answered;
* `CommandBot.Task` — a program over these questions that may fail;
* `CommandBot.Task.ofStore` — an operation on the store as such a program.
-/

import CommandBot.Bot.Host
import CommandBot.Store.Users

set_option relaxedAutoImplicit false
set_option autoImplicit false

namespace CommandBot

/-! ### Services -/

/-- What is asked of a service. -/
inductive Service where
  /-- A request to the store. -/
  | store (request : StoreRequest)
  /-- The addresses of the images that carry some tags. -/
  | search (query : String)
  /-- The outcome of a command line of the host. -/
  | shell (line : String)
  /-- The bytes of a file. -/
  | readFile (path : String)
deriving DecidableEq, Repr

/-- What answers a question to a service. -/
def Service.Answer : Service → Type
  | store request => request.Answer
  | search _ => Except BoardError (List String)
  | shell _ => Host.Outcome
  | readFile _ => Option (List UInt8)

/-! ### Requests -/

/-- What is asked while a message is answered. -/
inductive Request where
  /-- A question to a service. -/
  | service (service : Service)
  /-- Whether the author administers the server that the message was sent in. -/
  | authorIsAdmin
  /-- The voice channel that the author is in. -/
  | authorVoice
deriving DecidableEq, Repr

/-- What answers a request. -/
def Request.Answer : Request → Type
  | service s => s.Answer
  | authorIsAdmin => Except CommandError Bool
  | authorVoice => Option UInt64

/-! ### Tasks -/

/-- A program over the requests that has a result or a failure to report. -/
abbrev Task (α : Type) := Program Request.Answer (Except CommandError α)

namespace Task

variable {α : Type}

/-- The task that has a result at once. -/
def ok (a : α) : Task α := .done (.ok a)

/-- The task that fails at once. -/
def fail (e : CommandError) : Task α := .done (.error e)

/-- One question to the store. -/
def askStore (request : StoreRequest) : Program Request.Answer request.Answer :=
  .ask (.service (.store request)) .done

/-- An operation on the store, as a program over the requests. -/
def ofStore (operation : Program StoreRequest.Answer α) : Program Request.Answer α :=
  operation.translate askStore

end Task

end CommandBot
