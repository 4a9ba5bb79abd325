/-
**Where a message goes.**

A message is plain chat, an invocation of a verb that nobody declared, or the invocation of a
command.  An unknown verb is passed over in silence if the message begins with the prefix three
times, as in the three dots that people write.

* `CommandBot.Route` — where a message goes;
* `CommandBot.route` — **the route of a message**.
-/

import CommandBot.Invocation
import CommandBot.Registry

set_option relaxedAutoImplicit false
set_option autoImplicit false

namespace CommandBot

/-- Where a message goes. -/
inductive Route where
  /-- The message is plain chat. -/
  | chat
  /-- The message invokes a verb that no command declares. -/
  | unknown (verb : String) (quiet : Bool)
  /-- The message invokes a command. -/
  | command (command : Command) (args : List String)
deriving DecidableEq, Repr

/-- A message that begins with the prefix three times. -/
def isQuiet (lead message : String) : Bool :=
  (lead.toList ++ lead.toList ++ lead.toList).isPrefixOf message.toList

/-- **The route of a message.** -/
def route (lead : String) (registry : Registry) (message : String) : Route :=
  match Invocation.parse? lead message with
  | none => .chat
  | some i =>
      match registry.resolve? i.verb with
      | some command => .command command i.args
      | none => .unknown i.verb (isQuiet lead message)

end CommandBot
