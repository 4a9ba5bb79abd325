/-
**What can go wrong, and what the user is told.**

Each cause of a failure is a constructor; its wording stands in one function.  A command answers a
failure of the store or of the image board with a text of its own, so that no detail of the outside
world reaches the chat except through `CommandError.message`.

* `CommandBot.StoreError`, `CommandBot.BoardError` — failures of the store and of the image board;
* `CommandBot.CommandError` — why a command has no result;
* `CommandBot.CommandError.message` — what the user is told;
* `CommandBot.CommandError.ofStore` — a failure of the store met by a command.
-/

set_option relaxedAutoImplicit false
set_option autoImplicit false

namespace CommandBot

/-! ### The store -/

/-- Why the store has no record to give. -/
inductive StoreError where
  /-- There is no such user. -/
  | notFound
  /-- The server failed. -/
  | backend (detail : String)
  /-- A field of the user's hash cannot be read. -/
  | malformed (field value : String)
deriving DecidableEq, Repr

/-- The wording of a failure of the store. -/
def StoreError.message : StoreError → String
  | .notFound => "user not found"
  | .backend detail => "redis error: " ++ detail
  | .malformed field value => "malformed field '" ++ field ++ "': '" ++ value ++ "'"

/-! ### The image board -/

/-- Why the image board has no answer to give. -/
inductive BoardError where
  /-- The board cannot be reached. -/
  | unreachable
  /-- The board answers with a status other than success. -/
  | status (code : Nat)
  /-- The answer of the board cannot be read. -/
  | unreadable
deriving DecidableEq, Repr

/-- What the user is told; it depends on the class of the failure only. -/
def BoardError.message : BoardError → String
  | .unreachable => "Couldn't reach the image board."
  | .status _ => "The image board returned an error."
  | .unreadable => "The image board sent a response I couldn't read."

/-! ### Commands -/

/-- Why a command has no result. -/
inductive CommandError where
  /-- The command was not used as it should be. -/
  | invalidArgs (text : String)
  /-- A search found nothing. -/
  | noResults
  /-- What was asked for does not exist. -/
  | notFound (text : String)
  /-- The image board failed. -/
  | board (cause : BoardError)
  /-- The author may not use the command. -/
  | permissionDenied
  /-- A program of the host failed. -/
  | execution (detail : String)
  /-- A file of the bot cannot be read. -/
  | missingFile (name : String)
  /-- The command needs the store, and there is none. -/
  | storageDisabled
  /-- The store failed. -/
  | storage (cause : StoreError)
  /-- The bot cannot do what was asked. -/
  | unsupported (text : String)
deriving DecidableEq, Repr

namespace CommandError

/-- **What the user is told.** -/
def message : CommandError → String
  | invalidArgs text => text
  | noResults => "No results found."
  | notFound text => text
  | board cause => cause.message
  | permissionDenied => "You don't have permission to use that command."
  | execution detail => "Command failed: " ++ detail
  | missingFile name => "Couldn't open " ++ name ++ "."
  | storageDisabled => "That command needs the database, which isn't enabled."
  | storage cause => "Database error. (" ++ cause.message ++ ")"
  | unsupported text => text

/-- A failure of the store met by a command: a missing user is no fault of the store. -/
def ofStore : StoreError → CommandError
  | .notFound => notFound "That user isn't in the database yet."
  | cause => storage cause

end CommandError

end CommandBot
