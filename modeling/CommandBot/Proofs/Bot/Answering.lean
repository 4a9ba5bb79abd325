/-
**How a message is answered.**

An answer takes one of four ways.  A message may be passed over; it may be plain chat; it may invoke
a verb that nobody declared; or it goes to a command, which is counted and then executed.  Only the
last way asks anything of anybody.

Main definitions:

* `CommandBot.Context.Ignores` — the messages that are passed over.

Main results:

* `CommandBot.respond_of_ignores`, `CommandBot.respond_of_chat`, `CommandBot.respond_of_unknown`,
  `CommandBot.respond_of_command` — **the four ways**;
* `CommandBot.runs_respondCommand` — a command is counted and then executed;
* `CommandBot.route_eq_chat_iff_not_begins` — plain chat does not begin with the prefix.
-/

import CommandBot.Bot.Respond
import CommandBot.Proofs.Program.Exchanges
import CommandBot.Proofs.Routing

set_option relaxedAutoImplicit false
set_option autoImplicit false

namespace CommandBot

open Program

/-- The messages that are passed over: empty ones and those of programs. -/
def Context.Ignores (ctx : Context) (message : String) : Prop :=
  message = "" ∨ ctx.author.bot = true

section Ways

variable {ctx : Context} {message : String}

theorem respond_of_ignores (h : ctx.Ignores message) : respond ctx message = .done none := by
  have hignored : (message.isEmpty || ctx.author.bot) = true := by
    simpa [Context.Ignores] using h
  rw [respond, if_pos hignored]

/-- A message that is not passed over goes where it is routed to. -/
theorem respond_of_not_ignores (h : ¬ ctx.Ignores message) :
    respond ctx message =
      match route ctx.settings.commandPrefix ctx.registry message with
      | .chat =>
          if ctx.settings.sillyReplies then .done ((sillyReply? message).map Reply.ofText)
          else .done none
      | .unknown _ quiet => if quiet then .done none else .done (some unknownReply)
      | .command command args => respondCommand ctx command args := by
  have hignored : (message.isEmpty || ctx.author.bot) = false := by
    simpa [Context.Ignores] using h
  rw [respond, hignored]
  rfl

theorem respond_of_chat (h : ¬ ctx.Ignores message)
    (hroute : route ctx.settings.commandPrefix ctx.registry message = .chat) :
    respond ctx message =
      .done (if ctx.settings.sillyReplies then (sillyReply? message).map Reply.ofText
        else none) := by
  rw [respond_of_not_ignores h, hroute]
  dsimp only
  split
  · rfl
  · rfl

theorem respond_of_unknown (h : ¬ ctx.Ignores message) {verb : String} {quiet : Bool}
    (hroute : route ctx.settings.commandPrefix ctx.registry message = .unknown verb quiet) :
    respond ctx message = .done (if quiet then none else some unknownReply) := by
  rw [respond_of_not_ignores h, hroute]
  cases quiet with
  | true => rfl
  | false => rfl

theorem respond_of_command (h : ¬ ctx.Ignores message) {command : Command} {args : List String}
    (hroute : route ctx.settings.commandPrefix ctx.registry message = .command command args) :
    respond ctx message = respondCommand ctx command args := by
  rw [respond_of_not_ignores h, hroute]

end Ways

/-- What a command comes to, after it was counted. -/
theorem run_respondCommand {σ : Type} (answer : (q : Request) → σ → q.Answer × σ) (ctx : Context)
    (command : Command) (args : List String) (s : σ) :
    ((respondCommand ctx command args).run answer s).1 =
      (replyOf ((command.execute args ctx).run answer
        ((countAuthor ctx).run answer s).2).1).nonempty? := by
  simp only [respondCommand, run_bind, run_done]

/-- **A command is counted and then executed**, and what it comes to is sent. -/
theorem runs_respondCommand {ctx : Context} {command : Command} {args : List String}
    {exchanges : List ((q : Request) × q.Answer)} {reply : Option Reply}
    (h : Runs (respondCommand ctx command args) exchanges reply) :
    ∃ counting executing result, exchanges = counting ++ executing ∧
      Runs (countAuthor ctx) counting () ∧ Runs (command.execute args ctx) executing result ∧
      reply = (replyOf result).nonempty? := by
  obtain ⟨_, counting, others, rfl, hcounting, hothers⟩ := runs_bind_iff.1 h
  obtain ⟨result, executing, last, rfl, hexecuting, hlast⟩ := runs_bind_iff.1 hothers
  obtain ⟨rfl, rfl⟩ := runs_done_iff.1 hlast
  exact ⟨counting, executing, result, by rw [List.append_nil], hcounting, hexecuting, rfl⟩

/-- An invocation of a person is not passed over. -/
theorem not_ignores_of_isWritten {ctx : Context} {message : String} {i : Invocation}
    (hhuman : ctx.author.bot = false)
    (h : Invocation.IsWritten ctx.settings.commandPrefix message i) : ¬ ctx.Ignores message := by
  rintro (hempty | hbot)
  · -- Only an empty prefix begins the empty text.
    have hchars := congrArg String.toList (hempty ▸ h.message_eq)
    simp only [String.toList_empty, String.toList_append, List.nil_eq, List.append_eq_nil_iff,
      String.toList_eq_nil_iff] at hchars
    exact h.lead_ne_empty hchars.1
  · rw [hhuman] at hbot
    cases hbot

/-- **Plain chat does not begin with the prefix**, and only plain chat does not. -/
theorem route_eq_chat_iff_not_begins {lead message : String} {registry : Registry}
    (hlead : lead ≠ "") :
    route lead registry message = .chat ↔ ¬ ∃ rest, message = lead ++ rest := by
  rw [route_eq_chat_iff]
  constructor
  · intro h hbegins
    cases hparse : Invocation.parse? lead message with
    | none =>
        rcases Invocation.parse?_eq_none_iff.1 hparse with hempty | hnot
        · exact hlead hempty
        · exact hnot hbegins
    | some i => exact h i (Invocation.parse?_eq_some_iff.1 hparse)
  · intro h i hwritten
    exact h ⟨_, hwritten.message_eq⟩

end CommandBot
