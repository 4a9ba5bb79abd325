/-
**What is asked of the chat service.**

Beside the services of the bot, the chat service is asked about channels, members and roles, and
is given replies to send.  The voice channels of a server's members are known without asking, as
far as the server is.

* `CommandBot.ChannelKind` — what a channel turns out to be;
* `CommandBot.GatewayRequest` — what is asked while an event is handled;
* `CommandBot.GatewayTask` — a program over these questions.
-/

import CommandBot.Bot.Request
import CommandBot.Gateway.Roles
import CommandBot.Reply.Basic

set_option relaxedAutoImplicit false
set_option autoImplicit false

namespace CommandBot

/-- What a channel turns out to be. -/
inductive ChannelKind where
  /-- A channel of a server, in which anything may be shown or not. -/
  | ofServer (nsfw : Bool)
  /-- A direct conversation or a group of channels. -/
  | other
deriving DecidableEq, Repr

/-- Whether anything may be shown in the channel. -/
def ChannelKind.isNsfw : ChannelKind → Bool
  | ofServer nsfw => nsfw
  | other => false

/-- What is asked while an event is handled. -/
inductive GatewayRequest where
  /-- A question to a service of the bot. -/
  | service (service : Service)
  /-- What a channel is. -/
  | channel (id : UInt64)
  /-- The roles of a member of a server. -/
  | member (guild user : UInt64)
  /-- The roles of a server. -/
  | roles (guild : UInt64)
  /-- The voice channel that a member of a server is known to be in. -/
  | voiceOf (guild user : UInt64)
  /-- A reply is to be sent to a channel. -/
  | send (channel : UInt64) (reply : Reply)
deriving DecidableEq, Repr

/-- What answers such a question.  A lookup that fails tells why. -/
def GatewayRequest.Answer : GatewayRequest → Type
  | service s => s.Answer
  | channel _ => Except String ChannelKind
  | member _ _ => Except String (List UInt64)
  | roles _ => Except String RoleTable
  | voiceOf _ _ => Option UInt64
  | send _ _ => Except String Unit

/-- A program over the questions of an event. -/
abbrev GatewayTask (α : Type) := Program GatewayRequest.Answer α

end CommandBot
