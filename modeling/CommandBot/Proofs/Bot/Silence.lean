/-
**When the bot is silent.**

A message gets no answer if it is empty, if it comes from a program, if it is plain chat that is not
silly enough, or if it begins with the prefix three times and invokes nothing.  Everything else gets
an answer, and the answer is never empty: no command has an empty reply, and what becomes of a
failure has at least a cross in front.  For the search this rests on the reader of responses, which
leaves out empty addresses.

Main definitions:

* `CommandBot.Silences` — **the messages on which the bot is silent**;
* `CommandBot.IsAnswer` — the answers to all others;
* `CommandBot.Request.Fits` — the answers that a question can get.

Main results:

* `CommandBot.Command.execute_yields` — **no command of the bot has an empty reply**;
* `CommandBot.run_respond_of_command` — the answer to a command;
* `CommandBot.respond_eq_none_iff` — **when there is no answer, and what the others are.**
-/

import CommandBot.Bot.Commands
import CommandBot.Proofs.Board.Response
import CommandBot.Proofs.Bot.Answering
import CommandBot.Proofs.Bot.Conversation
import CommandBot.Proofs.Program.Results
import CommandBot.Proofs.Routing
import CommandBot.Proofs.Settings.Values

set_option relaxedAutoImplicit false
set_option autoImplicit false

namespace CommandBot

open Program

/-! ### Plain chat -/

/-- **Plain chat that is echoed**: a single `h`, and what begins with three times `e` in either
case. -/
def IsSilly (message : String) : Prop :=
  message = "h" ∨ ∃ a b c rest, message.toList = a :: b :: c :: rest ∧
    ∀ x ∈ [a, b, c], x = 'e' ∨ x = 'E'

theorem beginsWithEee_iff {s : List Char} :
    beginsWithEee s = true ↔
      ∃ a b c rest, s = a :: b :: c :: rest ∧ ∀ x ∈ [a, b, c], x = 'e' ∨ x = 'E' := by
  constructor
  · intro h
    unfold beginsWithEee at h
    split at h
    · next a b c rest => exact ⟨a, b, c, rest, rfl, by simpa [isE, and_assoc] using h⟩
    · cases h
  · rintro ⟨a, b, c, rest, rfl, h⟩
    simpa [beginsWithEee, isE, and_assoc] using h

theorem sillyReply?_of_isSilly {message : String} (h : IsSilly message) :
    sillyReply? message = some message := by
  rw [IsSilly, ← beginsWithEee_iff] at h
  exact if_pos h

theorem sillyReply?_of_not_isSilly {message : String} (h : ¬ IsSilly message) :
    sillyReply? message = none := by
  rw [IsSilly, ← beginsWithEee_iff] at h
  exact if_neg h

/-! ### Replies of the commands -/

/-- The answers that a question can get.  The image board fails, or its answer is read. -/
def Request.Fits : (q : Request) → q.Answer → Prop
  | .service (.search _), found =>
      (∃ e, found = Except.error e) ∨ ∃ body, found = Board.Response.parse body
  | _, _ => True

/-- A result that does not come to an empty reply. -/
def Speaks (result : Except CommandError Reply) : Prop := (replyOf result).isEmpty = false

theorem speaks_ok {reply : Reply} (h : reply.isEmpty = false) : Speaks (.ok reply) := h

theorem speaks_error (e : CommandError) : Speaks (.error e) := by
  simp [Speaks, replyOf, CommandError.reply]

/-- A reply that is not empty is sent. -/
theorem Speaks.nonempty?_replyOf {result : Except CommandError Reply} (h : Speaks result) :
    (replyOf result).nonempty? = some (replyOf result) := by
  rw [Reply.nonempty?, h]
  rfl

/-- No address that is read of a response is empty. -/
theorem Board.Response.ne_empty_of_parse {body : String} {urls : List String}
    (h : parse body = .ok urls) : ∀ url ∈ urls, url ≠ "" := by
  obtain ⟨document, addresses, -, -, rfl⟩ := exists_gives_of_parse h
  intro url hurl hempty
  obtain ⟨chars, hchars, rfl⟩ := List.mem_map.1 hurl
  simp_all

namespace Action

variable {Fits : (q : Request) → q.Answer → Prop}

theorem fail_yields (e : CommandError) : (Task.fail e).Yields Fits Speaks := .done (speaks_error e)

theorem pong_yields (args : List String) : (pong args).Yields Fits Speaks := by
  refine .done (speaks_ok ?_)
  rw [Reply.isEmpty_ofText]
  split
  · decide
  · decide

theorem explain_yields (args : List String) (ctx : Context) :
    (explain args ctx).Yields Fits Speaks := by
  unfold explain
  split
  · exact .done (speaks_ok (by simp [Help.listing, Help.header]))
  · split
    · exact .done (speaks_ok (by simp [Help.details]))
    · exact .done (speaks_ok (by decide))

/-- The search does not reply with an empty address, since none is read of a response. -/
theorem showImage_yields (args : List String) (ctx : Context) :
    (showImage args ctx).Yields Request.Fits Speaks := by
  unfold showImage
  split
  · exact fail_yields _
  · refine .ask fun found hfound => .done ?_
    rcases hfound with ⟨e, rfl⟩ | ⟨body, rfl⟩
    · exact speaks_error _
    · cases hparse : Board.Response.parse body with
      | error e => exact speaks_error _
      | ok urls =>
          unfold searchReply
          dsimp only
          split
          · next url hurl =>
              have hne := Board.Response.ne_empty_of_parse hparse url (List.mem_of_getElem? hurl)
              exact speaks_ok (by simpa using hne)
          · exact speaks_error _

theorem runAsAdmin_yields (args : List String) : (runAsAdmin args).Yields Fits Speaks := by
  refine .ask fun admin _ => ?_
  cases admin with
  | error e => exact fail_yields e
  | ok admin =>
      dsimp only
      split
      · unfold runLine
        split
        · exact fail_yields _
        · refine .ask fun outcome _ => ?_
          split
          · exact .done (speaks_ok (by simp [Host.fenced, Host.fence]))
          · exact fail_yields _
      · exact fail_yields _

theorem joinVoice_yields (ctx : Context) : (joinVoice ctx).Yields Fits Speaks := by
  unfold joinVoice
  split
  · exact fail_yields _
  · refine .ask fun voice _ => ?_
    cases voice with
    | none => exact fail_yields _
    | some channel => exact fail_yields _

theorem showSun_yields (ctx : Context) : (showSun ctx).Yields Fits Speaks := by
  refine .ask fun data _ => ?_
  cases data with
  | none => exact fail_yields _
  | some data => exact .done (speaks_ok (Reply.isEmpty_ofFile sunFile data))

theorem showRecord_yields (ctx : Context) : (showRecord ctx).Yields Fits Speaks := by
  unfold showRecord
  split
  · refine (Yields.trivial _).bind fun result _ => ?_
    cases result with
    | error e => exact fail_yields _
    | ok record => exact .done (speaks_ok (Reply.isEmpty_ofEmbed _))
  · exact fail_yields _

/-- An action that does not just answer with a reply that was given to it. -/
def isProper : Action → Bool
  | .canned _ => false
  | _ => true

/-- **No proper action has an empty reply.** -/
theorem perform_yields {action : Action} (h : action.isProper = true) (args : List String)
    (ctx : Context) : (action.perform args ctx).Yields Request.Fits Speaks := by
  cases action with
  | ping => exact pong_yields args
  | help => exact explain_yields args ctx
  | search => exact showImage_yields args ctx
  | shell => exact runAsAdmin_yields args
  | join => exact joinVoice_yields ctx
  | leave => exact fail_yields _
  | sun => exact showSun_yields ctx
  | posts => exact showRecord_yields ctx
  | canned reply => cases h

end Action

/-- **No command of the bot has an empty reply**, and neither has a failure of one. -/
theorem Command.execute_yields {command : Command} (h : command ∈ Command.builtin)
    (args : List String) (ctx : Context) :
    (command.execute args ctx).Yields Request.Fits Speaks := by
  have hproper : ∀ c ∈ Command.builtin, c.action.isProper = true := by decide
  unfold Command.execute
  split
  · exact Action.fail_yields _
  · exact Action.perform_yields (hproper command h) args ctx

/-! ### Answers -/

section Answers

variable {σ : Type} (answer : (q : Request) → σ → q.Answer × σ) (ctx : Context)

/-- What a command comes to when its message is answered, after it was counted. -/
def commandResult (command : Command) (args : List String) (s : σ) : Except CommandError Reply :=
  ((command.execute args ctx).run answer ((countAuthor ctx).run answer s).2).1

variable {answer ctx} {message : String}

/-- **The answer to a command is its reply, or the report of its failure**, and is not empty. -/
theorem run_respond_of_command (hregistry : ctx.registry = Registry.builtin)
    (hfits : ∀ q s, Request.Fits q (answer q s).1) (hignored : ¬ ctx.Ignores message)
    {command : Command} {args : List String}
    (hroute : route ctx.settings.commandPrefix ctx.registry message = .command command args)
    (s : σ) :
    ((respond ctx message).run answer s).1 =
        some (replyOf (commandResult answer ctx command args s)) ∧
      Speaks (commandResult answer ctx command args s) := by
  obtain ⟨verb, -, hverb⟩ := route_eq_command hroute
  have hcommand : command ∈ Command.builtin := by
    rw [hregistry] at hverb
    exact (Registry.resolve?_eq_some_iff_mem.1 hverb).1
  have hspeaks : Speaks (commandResult answer ctx command args s) :=
    (Command.execute_yields hcommand args ctx).of_run hfits _
  refine ⟨?_, hspeaks⟩
  rw [respond_of_command hignored hroute, run_respondCommand, ← commandResult,
    hspeaks.nonempty?_replyOf]

variable (ctx message) in
/-- **The messages on which the bot is silent.** -/
inductive Silences : Prop where
  | empty (h : message = "")
  | ofProgram (h : ctx.author.bot = true)
  /-- Plain chat, unless it may be echoed. -/
  | chat (hnot : ¬ ∃ rest, message = ctx.settings.commandPrefix ++ rest)
      (h : ctx.settings.sillyReplies = false ∨ ¬ IsSilly message)
  /-- What begins with the prefix three times and invokes no command. -/
  | quiet
      (hnone : ∀ command args,
        route ctx.settings.commandPrefix ctx.registry message ≠ .command command args)
      (h : ∃ rest, message = ctx.settings.commandPrefix ++ ctx.settings.commandPrefix ++
        ctx.settings.commandPrefix ++ rest)

variable (answer ctx message) in
/-- **The answers to all other messages**: plain chat itself, a fixed text for a verb that nobody
declared, and the reply of a command or the report of its failure. -/
inductive IsAnswer (s : σ) : Reply → Prop where
  | chat (hroute : route ctx.settings.commandPrefix ctx.registry message = .chat) :
      IsAnswer s ⟨message, none, none⟩
  | unknown {verb : String} {quiet : Bool}
      (hroute : route ctx.settings.commandPrefix ctx.registry message = .unknown verb quiet) :
      IsAnswer s ⟨"I don't understand that command.", none, none⟩
  | reply {command : Command} {args : List String} {reply : Reply}
      (hroute : route ctx.settings.commandPrefix ctx.registry message = .command command args)
      (h : commandResult answer ctx command args s = .ok reply) : IsAnswer s reply
  | failure {command : Command} {args : List String} {e : CommandError}
      (hroute : route ctx.settings.commandPrefix ctx.registry message = .command command args)
      (h : commandResult answer ctx command args s = .error e) :
      IsAnswer s ⟨"❌ " ++ e.message, none, none⟩

variable (answer ctx message) in
/-- The bot is silent where it may be, or there is an answer that is not empty. -/
inductive IsOutcome (s : σ) : Option Reply → Prop where
  | silent (h : Silences ctx message) : IsOutcome s none
  | answered {reply : Reply} (hnot : ¬ Silences ctx message) (hsome : reply.isEmpty = false)
      (h : IsAnswer answer ctx message s reply) : IsOutcome s (some reply)

/-- What begins with the prefix three times begins with the prefix. -/
theorem begins_of_thrice {lead : String} (h : ∃ rest, message = lead ++ lead ++ lead ++ rest) :
    ∃ rest, message = lead ++ rest := by
  obtain ⟨rest, rfl⟩ := h
  exact ⟨lead ++ lead ++ rest, by simp only [String.append_assoc]⟩

theorem isOutcome_of_chat (hlead : ctx.settings.commandPrefix ≠ "")
    (hignored : ¬ ctx.Ignores message)
    (hroute : route ctx.settings.commandPrefix ctx.registry message = .chat) (s : σ) :
    IsOutcome answer ctx message s ((respond ctx message).run answer s).1 := by
  have hnot := (route_eq_chat_iff_not_begins hlead).1 hroute
  rw [respond_of_chat hignored hroute]
  by_cases hsilly : ctx.settings.sillyReplies = true ∧ IsSilly message
  · obtain ⟨hallowed, hsilly⟩ := hsilly
    rw [hallowed, sillyReply?_of_isSilly hsilly]
    have hnonempty : message.isEmpty = false := by
      simpa using fun h => hignored (.inl h)
    refine .answered ?_ ((Reply.isEmpty_ofText message).trans hnonempty) (.chat hroute)
    rintro (h | h | ⟨-, h⟩ | ⟨-, h⟩)
    · exact hignored (.inl h)
    · exact hignored (.inr h)
    · rcases h with h | h
      · rw [hallowed] at h
        cases h
      · exact h hsilly
    · exact hnot (begins_of_thrice h)
  · have hsilent : ctx.settings.sillyReplies = false ∨ ¬ IsSilly message := by
      rw [not_and_or, Bool.not_eq_true] at hsilly
      exact hsilly
    have hnone : (if ctx.settings.sillyReplies = true then
        (sillyReply? message).map Reply.ofText else none) = none := by
      rcases hsilent with h | h
      · rw [h]
        rfl
      · rw [sillyReply?_of_not_isSilly h]
        split
        · rfl
        · rfl
    rw [hnone]
    exact .silent (.chat hnot hsilent)

theorem isOutcome_of_unknown (hignored : ¬ ctx.Ignores message) {verb : String} {quiet : Bool}
    (hroute : route ctx.settings.commandPrefix ctx.registry message = .unknown verb quiet)
    (s : σ) : IsOutcome answer ctx message s ((respond ctx message).run answer s).1 := by
  obtain ⟨⟨args, hwritten⟩, -, hquiet⟩ := route_eq_unknown_iff.1 hroute
  rw [respond_of_unknown hignored hroute]
  cases hthrice : quiet with
  | true =>
      refine .silent (.quiet ?_ ?_)
      · intro command args h
        rw [hroute] at h
        cases h
      · rw [← isQuiet_iff, ← hquiet, hthrice]
  | false =>
      refine .answered ?_ (by decide) (.unknown hroute)
      rintro (h | h | ⟨h, -⟩ | ⟨-, h⟩)
      · exact hignored (.inl h)
      · exact hignored (.inr h)
      · exact h ⟨_, hwritten.message_eq⟩
      · rw [← isQuiet_iff, ← hquiet, hthrice] at h
        cases h

theorem isOutcome_of_command (hlead : ctx.settings.commandPrefix ≠ "")
    (hregistry : ctx.registry = Registry.builtin)
    (hfits : ∀ q s, Request.Fits q (answer q s).1) (hignored : ¬ ctx.Ignores message)
    {command : Command} {args : List String}
    (hroute : route ctx.settings.commandPrefix ctx.registry message = .command command args)
    (s : σ) : IsOutcome answer ctx message s ((respond ctx message).run answer s).1 := by
  obtain ⟨hrun, hspeaks⟩ := run_respond_of_command hregistry hfits hignored hroute s
  rw [hrun]
  refine .answered ?_ hspeaks ?_
  · rintro (h | h | ⟨h, -⟩ | ⟨h, -⟩)
    · exact hignored (.inl h)
    · exact hignored (.inr h)
    · have hchat : route ctx.settings.commandPrefix ctx.registry message = .chat :=
        (route_eq_chat_iff_not_begins hlead).2 h
      rw [hroute] at hchat
      cases hchat
    · exact h command args hroute
  · cases hresult : commandResult answer ctx command args s with
    | ok reply => exact .reply hroute hresult
    | error e => exact .failure hroute hresult

/-- **Every message has such an outcome.** -/
theorem isOutcome_respond (hlead : ctx.settings.commandPrefix ≠ "")
    (hregistry : ctx.registry = Registry.builtin)
    (hfits : ∀ q s, Request.Fits q (answer q s).1) (message : String) (s : σ) :
    IsOutcome answer ctx message s ((respond ctx message).run answer s).1 := by
  by_cases hignored : ctx.Ignores message
  · rw [respond_of_ignores hignored]
    rcases hignored with hempty | hbot
    · exact .silent (.empty hempty)
    · exact .silent (.ofProgram hbot)
  · cases hroute : route ctx.settings.commandPrefix ctx.registry message with
    | chat => exact isOutcome_of_chat hlead hignored hroute s
    | unknown verb quiet => exact isOutcome_of_unknown hignored hroute s
    | command command args =>
        exact isOutcome_of_command hlead hregistry hfits hignored hroute s

/-- **When there is no answer, and what the others are.**  With settings that can be used and the
commands of the bot, whatever the store, the host and the chat service answer, the bot is silent on
exactly the messages above, and any other message gets an answer that is not empty. -/
theorem respond_eq_none_iff {lookup : String → Option String}
    (hsettings : Settings.ofLookup lookup = .ok ctx.settings)
    (hregistry : ctx.registry = Registry.builtin)
    (hboard : ∀ query s,
      (∃ e, (answer (.service (.search query)) s).1 = Except.error e) ∨
        ∃ body, (answer (.service (.search query)) s).1 = Board.Response.parse body)
    (message : String) (s : σ) :
    (((respond ctx message).run answer s).1 = none ↔ Silences ctx message) ∧
      ∀ reply, ((respond ctx message).run answer s).1 = some reply →
        reply.isEmpty = false ∧ IsAnswer answer ctx message s reply := by
  have hfits : ∀ q s, Request.Fits q (answer q s).1 := by
    intro q s
    unfold Request.Fits
    split
    · exact hboard _ s
    · trivial
  have houtcome := isOutcome_respond (Settings.commandPrefix_ne_empty hsettings) hregistry hfits
    message s
  generalize ((respond ctx message).run answer s).1 = outcome at houtcome ⊢
  cases houtcome with
  | silent h => exact ⟨iff_of_true rfl h, nofun⟩
  | answered hnot hsome h =>
      refine ⟨iff_of_false nofun hnot, ?_⟩
      rintro _ ⟨⟩
      exact ⟨hsome, h⟩

end Answers

/-! ### A search -/

/-- Settings with nothing but a token. -/
def tokenOnly (name : String) : Option String :=
  if name = "DISCORD_AUTH_TOKEN" then some "token" else none

/-- A response with an empty address and another one. -/
def twoImages : String := "[[[\"\"],[\"https://a.b/1.png\"]]]"

/-- Services that are down, but for an image board with two images. -/
def twoImageBoard : (q : Request) → Unit → q.Answer × Unit
  | .service (.search _), _ => (Board.Response.parse twoImages, ())
  | q, _ => (Conversation.refuse q, ())

/-- What is known of a message of somebody in a direct conversation. -/
def searching : Context where
  settings := ⟨"token", ".", true, true, none, none, none, "assets"⟩
  registry := Registry.builtin
  author := ⟨7, "ann", false⟩
  channel := ⟨1, none, false⟩
  mentions := []
  hasStore := false
  now := .epoch
  draw := 6

theorem respond_eq_none_iff_search :
    Settings.ofLookup tokenOnly = .ok searching.settings ∧ searching.registry = Registry.builtin ∧
    (∀ query s, (∃ e, (twoImageBoard (.service (.search query)) s).1 = Except.error e) ∨
      ∃ body, (twoImageBoard (.service (.search query)) s).1 = Board.Response.parse body) ∧
    ¬ Silences searching ".db pony" ∧
    ∃ reply, ((respond searching ".db pony").run twoImageBoard ()).1 = some reply ∧
      reply.isEmpty = false := by
  have hsettings : Settings.ofLookup tokenOnly = .ok searching.settings := by rfl
  have hboard : ∀ query s,
      (∃ e, (twoImageBoard (.service (.search query)) s).1 = Except.error e) ∨
        ∃ body, (twoImageBoard (.service (.search query)) s).1 = Board.Response.parse body := by
    intro query s
    exact .inr ⟨twoImages, rfl⟩
  have hparse : Board.Response.parse twoImages = .ok ["https://a.b/1.png"] := by
    decide +kernel
  have hasks : respond searching ".db pony" = .ask (.service (.search "pony, safe")) fun found =>
      .done (replyOf (Action.searchReply searching.draw found)).nonempty? := by rfl
  have hrun : ((respond searching ".db pony").run twoImageBoard ()).1 =
      some (.ofText "https://a.b/1.png") := by
    have hfound : (twoImageBoard (.service (.search "pony, safe")) ()).1 =
        Except.ok ["https://a.b/1.png"] := hparse
    rw [hasks, run_ask, hfound]
    rfl
  obtain ⟨hsilent, hanswer⟩ := respond_eq_none_iff hsettings rfl hboard ".db pony" ()
  refine ⟨hsettings, rfl, hboard, ?_, _, hrun, (hanswer _ hrun).1⟩
  rw [← hsilent, hrun]
  exact nofun

end CommandBot
