/-
**Handling an event.**

An event of the chat service brings one message.  The kind of its channel is looked up only if the
message begins with the command prefix, since nothing but a command looks at it; the roles of its
author only if a command asks for them.  At most one reply is sent, to the channel of the message.

* `CommandBot.Event` — a message as the chat service brings it;
* `CommandBot.Instance` — what the bot itself knows;
* `CommandBot.Event.authorIsAdmin` — whether the author administers the server;
* `CommandBot.Event.requestFor` — the questions of an answer, put to the chat service;
* `CommandBot.Instance.handle` — **the handling of an event.**
-/

import CommandBot.Bot.Respond
import CommandBot.Gateway.Request
import CommandBot.Reply.Payload

set_option relaxedAutoImplicit false
set_option autoImplicit false

namespace CommandBot

/-! ### Events -/

/-- A message as the chat service brings it. -/
structure Event where
  text : String
  author : User
  mentions : List User
  channel : UInt64
  /-- The server that the channel belongs to; a direct message has none. -/
  guild : Option UInt64
deriving DecidableEq, Repr

namespace Event

/-- The failure of a lookup of the author's roles. -/
def memberFailure (reason : String) : CommandError :=
  .execution ("couldn't look up your roles (" ++ reason ++ ")")

/-- The failure of a lookup of the server's roles. -/
def rolesFailure (reason : String) : CommandError :=
  .execution ("couldn't look up the server's roles (" ++ reason ++ ")")

/-- Whether a member of a server administers it. -/
def isAdminOf (guild user : UInt64) : GatewayTask (Except CommandError Bool) :=
  .ask (.member guild user) fun
    | .error reason => .done (.error (memberFailure reason))
    | .ok memberRoles =>
        .ask (.roles guild) fun
          | .error reason => .done (.error (rolesFailure reason))
          | .ok table => .done (.ok (RoleTable.grantsAdmin table memberRoles))

/-- **Whether the author administers the server**; nobody does in a direct message. -/
def authorIsAdmin (e : Event) : GatewayTask (Except CommandError Bool) :=
  match e.guild with
  | none => .done (.ok false)
  | some guild => isAdminOf guild e.author.id

/-- The voice channel of the author; there is none in a direct message. -/
def authorVoice (e : Event) : GatewayTask (Option UInt64) :=
  match e.guild with
  | none => .done none
  | some guild => .ask (.voiceOf guild e.author.id) .done

/-- A question of an answer, put to the chat service. -/
def requestFor (e : Event) : (r : Request) → GatewayTask r.Answer
  | .service s => .ask (.service s) .done
  | .authorIsAdmin => e.authorIsAdmin
  | .authorVoice => e.authorVoice

/-- A message that is passed over whatever it says. -/
def isIgnored (e : Event) : Bool := e.text.isEmpty || e.author.bot

end Event

/-! ### Handling -/

/-- What the bot itself knows. -/
structure Instance where
  settings : Settings
  registry : Registry
  hasStore : Bool
deriving DecidableEq, Repr

namespace Instance

/-- Whether a message begins with the command prefix. -/
def isAddressed (b : Instance) (e : Event) : Bool :=
  b.settings.commandPrefix.toList.isPrefixOf e.text.toList

/-- What is known when the message of an event is answered. -/
def context (b : Instance) (e : Event) (nsfw : Bool) (now : Timestamp) (draw : Nat) : Context where
  settings := b.settings
  registry := b.registry
  author := e.author
  channel := ⟨e.channel, e.guild, nsfw⟩
  mentions := e.mentions
  hasStore := b.hasStore
  now := now
  draw := draw

/-- Whether anything may be shown in the channel of an event, as far as that can be found out. -/
def lookUpNsfw (e : Event) : GatewayTask Bool :=
  .ask (.channel e.channel) fun
    | .ok kind => .done kind.isNsfw
    | .error _ => .done false

/-- The same, asked only for a message that begins with the command prefix. -/
def channelIsNsfw (b : Instance) (e : Event) : GatewayTask Bool :=
  if b.isAddressed e then lookUpNsfw e else .done false

/-- The answer to an event in a channel of a known kind. -/
def answer (b : Instance) (e : Event) (nsfw : Bool) (now : Timestamp) (draw : Nat) :
    GatewayTask (Option Reply) :=
  (respond (b.context e nsfw now draw) e.text).translate e.requestFor

/-- A reply is sent if it keeps to the limits of the chat service.  A failure is not retried. -/
def send (channel : UInt64) (reply : Reply) : GatewayTask Unit :=
  if reply.isSendable then .ask (.send channel reply) fun _ => .done () else .done ()

/-- An answer is sent if there is one. -/
def sendAnswer (channel : UInt64) : Option Reply → GatewayTask Unit
  | none => .done ()
  | some reply => send channel reply

/-- **The handling of an event.** -/
def handle (b : Instance) (e : Event) (now : Timestamp) (draw : Nat) : GatewayTask Unit :=
  if e.isIgnored then .done ()
  else
    -- the channel is looked up before the message is read any further
    (b.channelIsNsfw e).bind fun nsfw =>
      (b.answer e nsfw now draw).bind (sendAnswer e.channel)

end Instance

end CommandBot
