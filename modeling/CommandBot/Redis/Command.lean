/-
**The commands of the server.**

A server understands lines of words.  Connecting sends the password if there is one, the number of
the database unless it is the first, and a greeting.  After that, each request to the store is one
command.

* `CommandBot.Redis.Command` — the commands that are used;
* `CommandBot.Redis.Command.words` — a command as it is sent;
* `CommandBot.Redis.Connection.greeting` — the commands that connect;
* `CommandBot.Redis.Command.ofRequest` — the command of a request.
-/

import CommandBot.Redis.Connection
import CommandBot.Store.Request

set_option relaxedAutoImplicit false
set_option autoImplicit false

namespace CommandBot.Redis

/-- The commands that are used. -/
inductive Command where
  /-- Prove who asks. -/
  | auth (username : Option String) (password : String)
  /-- Turn to a database. -/
  | select (database : Int)
  /-- Ask for a sign of life. -/
  | ping
  /-- Ask for all fields under a key. -/
  | getAll (key : String)
  /-- Set fields under a key. -/
  | setFields (key : String) (fields : List (String × String))
deriving DecidableEq, Repr

/-- **A command as it is sent.** -/
def Command.words : Command → List String
  | auth username password => "AUTH" :: (username.toList ++ [password])
  | select database => ["SELECT", toString database]
  | ping => ["PING"]
  | getAll key => ["HGETALL", key]
  | setFields key fields => "HMSET" :: key :: fields.flatMap fun field => [field.1, field.2]

/-- The commands that prove who asks. -/
def Connection.credentials (c : Connection) : List Command :=
  match c.password with
  | none => []
  | some password => [.auth c.username password]

/-- The commands that turn to the database; a server begins with the first. -/
def Connection.selection (c : Connection) : List Command :=
  if c.database = 0 then [] else [.select c.database]

/-- **The commands that connect.** -/
def Connection.greeting (c : Connection) : List Command :=
  c.credentials ++ c.selection ++ [.ping]

/-- The command of a request. -/
def Command.ofRequest : StoreRequest → Command
  | .getAll key => getAll key
  | .setFields key fields => setFields key fields

end CommandBot.Redis
