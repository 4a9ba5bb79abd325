/-
**Answering a message.**

A message without text and a message of a program are passed over.  Plain chat is answered only if
it is silly and silliness is allowed.  A command counts for its author, whether it succeeds or not,
and whether or not the count can be kept; its failure becomes a reply.

* `CommandBot.sillyReply?` — the answer to plain chat;
* `CommandBot.CommandError.reply` — a failure as a reply;
* `CommandBot.respond` — **the answer to a message**.
-/

import CommandBot.Bot.Perform
import CommandBot.Routing

set_option relaxedAutoImplicit false
set_option autoImplicit false

namespace CommandBot

/-! ### Plain chat -/

/-- An `e` of either case. -/
def isE (c : Char) : Bool := c = 'e' || c = 'E'

/-- A text that begins with three times `e`. -/
def beginsWithEee : List Char → Bool
  | a :: b :: c :: _ => isE a && isE b && isE c
  | _ => false

/-- The answer to plain chat: a single `h` and anything that begins with three times `e` is
echoed. -/
def sillyReply? (message : String) : Option String :=
  if message = "h" ∨ beginsWithEee message.toList = true then some message else none

/-! ### Replies -/

/-- A failure as a reply. -/
def CommandError.reply (e : CommandError) : Reply := .ofText ("❌ " ++ e.message)

/-- The answer to an unknown verb. -/
def unknownReply : Reply := .ofText "I don't understand that command."

/-- The reply that is sent, if there is anything to send. -/
def Reply.nonempty? (r : Reply) : Option Reply := if r.isEmpty then none else some r

/-- The reply that a command ends with. -/
def replyOf : Except CommandError Reply → Reply
  | .ok reply => reply
  | .error e => e.reply

/-! ### Messages -/

/-- Count one more command of the author, if there is a store.  Nothing depends on the outcome. -/
def countAuthor (ctx : Context) : Program Request.Answer Unit :=
  if ctx.hasStore then
    (Task.ofStore (Users.recordPost ctx.now ctx.author)).bind fun _ => .done ()
  else .done ()

/-- The answer to a command. -/
def respondCommand (ctx : Context) (command : Command) (args : List String) :
    Program Request.Answer (Option Reply) :=
  (countAuthor ctx).bind fun _ =>
    (command.execute args ctx).bind fun result => .done (replyOf result).nonempty?

/-- **The answer to a message.** -/
def respond (ctx : Context) (message : String) : Program Request.Answer (Option Reply) :=
  if message.isEmpty || ctx.author.bot then .done none
  else
    match route ctx.settings.commandPrefix ctx.registry message with
    | .chat =>
        if ctx.settings.sillyReplies then .done ((sillyReply? message).map Reply.ofText)
        else .done none
    | .unknown _ quiet => if quiet then .done none else .done (some unknownReply)
    | .command command args => respondCommand ctx command args

end CommandBot
