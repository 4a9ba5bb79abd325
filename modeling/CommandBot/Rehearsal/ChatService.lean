/-
**A chat service to rehearse with.**

The chat service is played by its answers to one message.  It keeps the lookups that reached it and
the replies that it was given, also those that it refused to send.  If it cannot be reached, every
question about it fails and nothing is kept.

* `CommandBot.Rehearsal.ChatAnswers` — what the chat service answers for one message;
* `CommandBot.Rehearsal.Lookup` — a lookup that reached it;
* `CommandBot.Rehearsal.Platform` — the chat service together with the services of the bot;
* `CommandBot.Rehearsal.Platform.answer` — what they answer;
* `CommandBot.Rehearsal.Platform.steps` — **events handled one after another.**
-/

import CommandBot.Gateway.Handle
import CommandBot.Rehearsal.Template
import CommandBot.Rehearsal.World

set_option relaxedAutoImplicit false
set_option autoImplicit false

namespace CommandBot.Rehearsal

/-! ### The chat service -/

/-- What the chat service answers for one message. -/
structure ChatAnswers where
  channel : Except String ChannelKind
  memberRoles : Except String (List UInt64)
  guildRoles : Except String RoleTable
  /-- The voice channels of the members, if the server is known. -/
  voice : Option (List (UInt64 × Option UInt64))
  /-- Why no reply can be sent, if none can. -/
  sendFailure : Option String

/-- A lookup that reached the chat service. -/
inductive Lookup where
  | channel (id : UInt64)
  | member (guild user : UInt64)
  | roles (guild : UInt64)
deriving DecidableEq, Repr

/-- A lookup as a line. -/
def Lookup.text : Lookup → String
  | .channel id => "channel " ++ id.toNat.repr
  | .member guild user => "member " ++ guild.toNat.repr ++ " " ++ user.toNat.repr
  | .roles guild => "roles " ++ guild.toNat.repr

/-- The chat service together with the services of the bot. -/
structure Platform where
  world : World
  chat : ChatAnswers
  /-- Whether the chat service can be reached. -/
  reachable : Bool
  /-- The lookups that reached it, in order. -/
  lookups : List Lookup
  /-- The replies that it was given, in order, each with the channel it was for. -/
  sent : List (UInt64 × Reply)

namespace Platform

/-- Why a question fails if the chat service cannot be reached. -/
def unreachable : String := "error sending request"

/-- The answer to a lookup. -/
def lookUp {α : Type} (lookup : Lookup) (answer : Except String α) (p : Platform) :
    Except String α × Platform :=
  if p.reachable then (answer, { p with lookups := p.lookups ++ [lookup] })
  else (.error unreachable, p)

/-- The voice channel of a member. -/
def voiceOf (p : Platform) (user : UInt64) : Option UInt64 :=
  match p.chat.voice with
  | none => none
  | some members => (members.lookup user).join

/-- The answer to a reply that is to be sent. -/
def deliver (channel : UInt64) (reply : Reply) (p : Platform) : Except String Unit × Platform :=
  if p.reachable then
    ((match p.chat.sendFailure with
      | some reason => .error reason
      | none => .ok ()), { p with sent := p.sent ++ [(channel, reply)] })
  else (.error unreachable, p)

/-- **What the platform answers.** -/
def answer : (r : GatewayRequest) → Platform → r.Answer × Platform
  | .service s, p =>
      let answered := World.answerService s p.world
      (answered.1, { p with world := answered.2 })
  | .channel id, p => p.lookUp (.channel id) p.chat.channel
  | .member guild user, p => p.lookUp (.member guild user) p.chat.memberRoles
  | .roles guild, p => p.lookUp (.roles guild) p.chat.guildRoles
  | .voiceOf _ user, p => (p.voiceOf user, p)
  | .send channel reply, p => p.deliver channel reply

/-! ### Events -/

/-- The platform for the next event: the services stay, the records start anew. -/
def next (p : Platform) (chat : ChatAnswers) : Platform where
  world := { p.world with queries := [] }
  chat := chat
  reachable := p.reachable
  lookups := []
  sent := []

/-- The bot as its commands answer an event. -/
def instanceFor (b : Instance) (e : Event) : Instance :=
  { b with registry := Template.registryFor b.settings.commandPrefix e.text b.registry }

/-- The platform after one event. -/
def step (b : Instance) (now : Timestamp) (draw : Nat) (e : Event) (chat : ChatAnswers)
    (p : Platform) : Platform :=
  (((instanceFor b e).handle e now draw).run answer (p.next chat)).2

/-- **Events handled one after another**: the platform after each of them. -/
def steps (b : Instance) (now : Timestamp) (draw : Nat) :
    List (Event × ChatAnswers) → Platform → List Platform
  | [], _ => []
  | (e, chat) :: rest, p =>
      step b now draw e chat p :: steps b now draw rest (step b now draw e chat p)

end Platform

end CommandBot.Rehearsal
