/-
**Where and by whom a message was sent.**

* `CommandBot.Channel` — the channel of a message;
* `CommandBot.Context` — all that is known when a message is answered.
-/

import CommandBot.Registry
import CommandBot.Settings.Basic
import CommandBot.Store.Record

set_option relaxedAutoImplicit false
set_option autoImplicit false

namespace CommandBot

/-- The channel of a message. -/
structure Channel where
  id : UInt64
  /-- The server that the channel belongs to; a direct message has none. -/
  guild : Option UInt64
  /-- Whether anything may be shown there. -/
  nsfw : Bool
deriving DecidableEq, Repr

/-- All that is known when a message is answered. -/
structure Context where
  settings : Settings
  registry : Registry
  author : User
  channel : Channel
  /-- The users that the message mentions, in order. -/
  mentions : List User
  /-- Whether there is a store. -/
  hasStore : Bool
  /-- The time. -/
  now : Timestamp
  /-- A number drawn at random for this message. -/
  draw : Nat
deriving DecidableEq, Repr

end CommandBot
