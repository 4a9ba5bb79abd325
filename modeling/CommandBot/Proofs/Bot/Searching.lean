/-
**A search, from the message to the reply.**

What stands after a verb of the search command is sent to the image board as it stands, and once; it
is taken apart at the spaces on the way and put together again.  A text of white space is not sent.
What comes back is one of the addresses that the board gave, or the report that there is none, or
the report of a failure that tells no more than its class.

The search and the shell command refuse empty words in two ways: the one looks at each argument, the
other at all of them as one line.  Since what joins them is white space, they refuse the same words.

Main definitions:

* `CommandBot.BoardError.Class` — the classes of failures of the board, with their reports;
* `CommandBot.searches` — the queries among the exchanges, with their answers;
* `CommandBot.SearchAnswer`, `CommandBot.AnswersSearch` — **how a search is answered**.

Main results:

* `CommandBot.Action.showImage_eq_fail_iff`, `CommandBot.Action.runLine_eq_fail_iff` — the words
  that are refused;
* `CommandBot.search_answers_message` — **a search is answered like that**, whatever stands before
  and after the verb;
* `CommandBot.not_answersSearch_of_noPrefix` — but not if there is no prefix.
-/

import CommandBot.Proofs.Bot.Confinement
import CommandBot.Proofs.Bot.Silence

set_option relaxedAutoImplicit false
set_option autoImplicit false

namespace CommandBot

open Program

/-! ### Words that are refused -/

/-- **A line is blank exactly if each of its words is.** -/
theorem Search.isBlank_line (args : List String) :
    Text.isBlank (line args) = args.all Text.isBlank := by
  have hspace : Text.isBlank " " = true := by decide
  induction args with
  | nil => rfl
  | cons arg rest ih =>
      cases rest with
      | nil => rw [line, String.intercalate_singleton, List.all_cons, List.all_nil, Bool.and_true]
      | cons next rest =>
          have hline : line (arg :: next :: rest) = arg ++ " " ++ line (next :: rest) :=
            String.intercalate_cons_cons
          rw [hline, Text.isBlank_append, Text.isBlank_append, hspace, Bool.and_true, ih,
            List.all_cons (a := arg)]

theorem Search.isIdle_eq_all (args : List String) : isIdle args = args.all Text.isBlank := by
  simp only [isIdle, Text.isEmpty_trim]

namespace Action

variable {args : List String} {ctx : Context}

/-- What the search command refuses. -/
theorem showImage_eq_fail_iff :
    showImage args ctx = Task.fail (.invalidArgs "No tags specified.") ↔
      ∀ arg ∈ args, Text.isBlank arg = true := by
  rw [showImage, Search.isIdle_eq_all, ← List.all_eq_true]
  split
  · next hidle => exact iff_of_true rfl hidle
  · next hwords => exact iff_of_false nofun hwords

/-- **What the shell command refuses.** -/
theorem runLine_eq_fail_iff :
    runLine (Search.line args) = Task.fail (.invalidArgs "No command specified.") ↔
      ∀ arg ∈ args, Text.isBlank arg = true := by
  rw [runLine, Text.isEmpty_trim, Search.isBlank_line, ← List.all_eq_true]
  split
  · next hblank => exact iff_of_true rfl hblank
  · next hwords => exact iff_of_false nofun hwords

end Action

/-! ### Failures of the board -/

/-- The classes of failures of the image board. -/
inductive BoardError.Class where
  | transport | status | parse
deriving DecidableEq, Repr

/-- The class of a failure. -/
def BoardError.toClass : BoardError → Class
  | .unreachable => .transport
  | .status _ => .status
  | .unreadable => .parse

/-- What is reported of a class. -/
def BoardError.Class.report (c : Class) : String :=
  "❌ " ++ match c with
    | .transport => "Couldn't reach the image board."
    | .status => "The image board returned an error."
    | .parse => "The image board sent a response I couldn't read."

/-- **The report of a failure tells its class.** -/
theorem BoardError.reply_board (e : BoardError) :
    (CommandError.board e).reply = .ofText e.toClass.report := by
  cases e with
  | unreachable => rfl
  | status code => rfl
  | unreadable => rfl

/-! ### Answers -/

/-- The queries among the exchanges, with the answers of the board. -/
def searches (exchanges : List ((q : Request) × q.Answer)) :
    List (String × Except BoardError (List String)) :=
  exchanges.filterMap fun
    | ⟨.service (.search query), found⟩ => some (query, found)
    | _ => none

/-- **How a search for a text is answered**, with what is asked of the board. -/
inductive SearchAnswer (nsfw : Bool) (text : String) :
    List (String × Except BoardError (List String)) → Reply → Prop where
  /-- White space is not searched for. -/
  | idle (h : Text.isBlank text = true) :
      SearchAnswer nsfw text [] (.ofText "❌ No tags specified.")
  | found (h : Text.isBlank text = false) {urls : List String} {url : String} (hurl : url ∈ urls) :
      SearchAnswer nsfw text [(text ++ if nsfw then "" else ", safe", .ok urls)] (.ofText url)
  | nothing (h : Text.isBlank text = false) :
      SearchAnswer nsfw text [(text ++ if nsfw then "" else ", safe", .ok [])]
        (.ofText "❌ No results found.")
  | failed (h : Text.isBlank text = false) (e : BoardError) :
      SearchAnswer nsfw text [(text ++ if nsfw then "" else ", safe", .error e)]
        (.ofText e.toClass.report)

theorem Search.query_eq (args : List String) (nsfw : Bool) :
    query args nsfw = line args ++ if nsfw then "" else ", safe" := by
  cases nsfw with
  | false => rw [query, if_neg Bool.false_ne_true, String.append_assoc]; rfl
  | true => rw [query, if_pos rfl, if_pos rfl, String.append_empty]

/-- A draw picks one of the addresses, if there are any. -/
theorem Search.pick?_eq_none_iff {draw : Nat} {urls : List String} :
    pick? draw urls = none ↔ urls = [] := by
  rw [pick?, List.getElem?_eq_none_iff, ← List.length_eq_zero_iff]
  constructor
  · intro h
    by_contra hne
    exact absurd (Nat.mod_lt draw (Nat.pos_of_ne_zero hne)) (Nat.not_lt.2 h)
  · intro h
    rw [h]
    exact Nat.zero_le _

/-- **What the search command comes to.** -/
theorem Action.searchAnswer_of_runs {args : List String} {ctx : Context}
    {exchanges : List ((q : Request) × q.Answer)} {result : Except CommandError Reply}
    (h : Runs (showImage args ctx) exchanges result) :
    SearchAnswer ctx.channel.nsfw (Search.line args) (searches exchanges) (replyOf result) := by
  rw [showImage, Search.isIdle_eq_all, ← Search.isBlank_line] at h
  split at h
  · next hblank =>
      obtain ⟨rfl, rfl⟩ := runs_done_iff.1 h
      exact .idle hblank
  · next hwords =>
      rw [Bool.not_eq_true] at hwords
      obtain ⟨found, rest, rfl, hrest⟩ := runs_ask_iff.1 h
      obtain ⟨rfl, rfl⟩ := runs_done_iff.1 hrest
      rw [Search.query_eq]
      cases found with
      | error e =>
          rw [searchReply, replyOf, BoardError.reply_board]
          exact .failed hwords e
      | ok urls =>
          cases hpick : Search.pick? ctx.draw urls with
          | none =>
              obtain rfl := Search.pick?_eq_none_iff.1 hpick
              exact .nothing hwords
          | some url =>
              rw [searchReply, hpick]
              exact .found hwords (List.mem_of_getElem? hpick)

/-! ### Messages -/

section Messages

variable {nsfw : Bool} {text : String} {reply : Reply}
  {found : List (String × Except BoardError (List String))}
  {first second exchanges : List ((q : Request) × q.Answer)}

theorem searches_append : searches (first ++ second) = searches first ++ searches second :=
  List.filterMap_append ..

/-- Whoever does not search has no queries. -/
theorem searches_eq_nil (h : ∀ q ∈ asked exchanges, ∃ r, q = .service (.store r)) :
    searches exchanges = [] := by
  rw [searches, List.filterMap_eq_nil_iff]
  rintro ⟨q, answer⟩ hmem
  obtain ⟨r, hr⟩ := h q (List.mem_map_of_mem hmem)
  subst hr
  rfl

/-- A query with its answer was exchanged. -/
theorem mem_of_mem_searches {query : String} {urls : Except BoardError (List String)}
    (h : (query, urls) ∈ searches exchanges) :
    (⟨.service (.search query), urls⟩ : (q : Request) × q.Answer) ∈ exchanges := by
  obtain ⟨x, hx, hquery⟩ := List.mem_filterMap.1 h
  match x, hx, hquery with
  | ⟨.service (.search _), _⟩, hx, hquery =>
      cases hquery
      exact hx

/-- A search is answered with something, if the board has no empty address. -/
theorem SearchAnswer.isEmpty_eq_false (h : SearchAnswer nsfw text found reply)
    (hboard : ∀ query urls, (query, Except.ok urls) ∈ found → "" ∉ urls) :
    reply.isEmpty = false := by
  cases h with
  | idle _ => decide
  | @found _ urls url hurl =>
      rw [Reply.isEmpty_ofText, ← Bool.not_eq_true, String.isEmpty_iff]
      rintro rfl
      exact hboard _ urls (List.mem_singleton_self _) hurl
  | nothing _ => decide
  | failed _ e =>
      rw [← BoardError.reply_board]
      exact speaks_error _

/-- **A message that searches for a text is answered as it should be**, whoever answers, if the
image board has no empty addresses. -/
def AnswersSearch (ctx : Context) (verb text : String) : Prop :=
  ∀ {σ : Type} (answer : (q : Request) → σ → q.Answer × σ) (s : σ),
    (∀ query s urls, (answer (.service (.search query)) s).1 = Except.ok urls → "" ∉ urls) →
    ∃ reply,
      ((respond ctx (ctx.settings.commandPrefix ++ verb ++ " " ++ text)).run answer s).1 =
        some reply ∧
      SearchAnswer ctx.channel.nsfw text
        (searches ((respond ctx (ctx.settings.commandPrefix ++ verb ++ " " ++ text)).transcript
          answer s)) reply

/-- The search commands of the bot need no store, and their verbs have no spaces. -/
theorem Command.search_of_builtin {command : Command} (hcommand : command ∈ Command.builtin)
    (hsearch : command.action = .search) :
    command.needsStore = false ∧ ∀ verb ∈ command.verbs, ' ' ∉ verb.toList := by
  have hbuiltin : ∀ c ∈ Command.builtin, c.action = .search →
      c.needsStore = false ∧ ∀ verb ∈ c.verbs, ' ' ∉ verb.toList := by decide
  exact hbuiltin command hcommand hsearch

/-- What a message to the search command is answered with. -/
theorem searchAnswer_of_runs {ctx : Context} {message : String} {command : Command}
    {args : List String} {sent : Option Reply} (hsearch : command.action = .search)
    (hstore : command.needsStore = false) (hignored : ¬ ctx.Ignores message)
    (hroute : route ctx.settings.commandPrefix ctx.registry message = .command command args)
    (h : Runs (respond ctx message) exchanges sent)
    (hboard : ∀ query urls, (query, Except.ok urls) ∈ searches exchanges → "" ∉ urls) :
    ∃ reply, sent = some reply ∧
      SearchAnswer ctx.channel.nsfw (Search.line args) (searches exchanges) reply := by
  rw [respond_of_command hignored hroute] at h
  obtain ⟨counting, executing, result, rfl, hcounting, hexecuting, rfl⟩ := runs_respondCommand h
  rw [Command.execute, hstore, hsearch] at hexecuting
  have hanswer := Action.searchAnswer_of_runs hexecuting
  have hcounted : searches counting = [] := searches_eq_nil fun q hq =>
    (mem_asked_countAuthor hcounting q hq).imp fun _ hr => hr.1
  rw [searches_append, hcounted, List.nil_append] at hboard ⊢
  have hspeaks : Speaks result := hanswer.isEmpty_eq_false hboard
  exact ⟨replyOf result, hspeaks.nonempty?_replyOf, hanswer⟩

end Messages

/-- **A search is answered as it should be, and the two commands refuse the same words.**  For every
prefix but the empty one, every verb of the search command, every text after it, everybody but
programs, and whoever answers: white space is not searched for; anything else is one query, the text
as it stands with the safety tag outside of NSFW channels, and what the board answers determines the
reply up to the draw, a failure by its class.  Both the search and the shell command refuse their
words exactly if each of them is blank. -/
theorem search_answers_message :
    (∀ (ctx : Context) (command : Command) (verb text : String),
      ctx.settings.commandPrefix ≠ "" → ctx.registry = Registry.builtin →
      ctx.author.bot = false → command ∈ Command.builtin → command.action = .search →
      verb ∈ command.verbs → AnswersSearch ctx verb text) ∧
    ∀ (args : List String) (ctx : Context),
      (Action.showImage args ctx = Task.fail (.invalidArgs "No tags specified.") ↔
        ∀ arg ∈ args, Text.isBlank arg = true) ∧
      (Action.runLine (Search.line args) = Task.fail (.invalidArgs "No command specified.") ↔
        ∀ arg ∈ args, Text.isBlank arg = true) := by
  refine ⟨?_, fun args ctx => ⟨Action.showImage_eq_fail_iff, Action.runLine_eq_fail_iff⟩⟩
  intro ctx command verb text hlead hregistry hhuman hcommand hsearch hverb σ answer s hboard
  obtain ⟨hstore, hspaces⟩ := Command.search_of_builtin hcommand hsearch
  obtain ⟨args, hwritten, hline⟩ := Invocation.exists_isWritten hlead (hspaces verb hverb) text
  have hroute : route ctx.settings.commandPrefix ctx.registry
      (ctx.settings.commandPrefix ++ verb ++ " " ++ text) = .command command args := by
    rw [hregistry]
    exact route_eq_command_iff.2 ⟨verb, hwritten, hcommand, hverb⟩
  have hruns := runs_transcript answer
    (respond ctx (ctx.settings.commandPrefix ++ verb ++ " " ++ text)) s
  obtain ⟨reply, hreply, hanswer⟩ := searchAnswer_of_runs hsearch hstore
    (not_ignores_of_isWritten hhuman hwritten) hroute hruns fun query urls hmem => by
      obtain ⟨t, -, ht⟩ := exists_answer_of_mem_transcript (fun _ => ()) (fun _ _ => rfl)
        (mem_of_mem_searches hmem)
      exact hboard query t urls ht.symm
  have htext : Search.line args = text := hline
  rw [htext] at hanswer
  exact ⟨reply, hreply, hanswer⟩

/-- An image board with two images, while all other services are down. -/
def ponyBoard : (q : Request) → Unit → q.Answer × Unit
  | .service (.search _), _ => (Except.ok ["https://a.b/1.png", "https://a.b/2.png"], ())
  | q, _ => (Conversation.refuse q, ())

theorem ponyBoard_ne_empty (query : String) (s : Unit) (urls : List String)
    (h : (ponyBoard (.service (.search query)) s).1 = Except.ok urls) : "" ∉ urls := by
  cases h
  decide

/-- A text with spaces in a row, a tabulator and a space at its end. -/
theorem search_answers_message_spaces :
    searching.settings.commandPrefix = "." ∧ searching.registry = Registry.builtin ∧
    searching.author.bot = false ∧
    (∃ command ∈ Command.builtin, command.action = .search ∧ "db" ∈ command.verbs) ∧
    (∀ query s urls, (ponyBoard (.service (.search query)) s).1 = Except.ok urls → "" ∉ urls) ∧
    ∃ url ∈ ["https://a.b/1.png", "https://a.b/2.png"],
      ((respond searching ("." ++ "db" ++ " " ++ " a  b\tc ")).run ponyBoard ()).1 =
        some (.ofText url) := by
  have hcommand : ∃ command ∈ Command.builtin, command.action = .search ∧
      "db" ∈ command.verbs := by decide
  refine ⟨rfl, rfl, rfl, hcommand, ponyBoard_ne_empty, ?_⟩
  obtain ⟨command, hmem, hsearch, hverb⟩ := hcommand
  obtain ⟨reply, hreply, hanswer⟩ := search_answers_message.1 searching command "db" " a  b\tc "
    (by decide) rfl rfl hmem hsearch hverb ponyBoard () ponyBoard_ne_empty
  have hsearches : searches ((respond searching ("." ++ "db" ++ " " ++ " a  b\tc ")).transcript
      ponyBoard ()) =
        [(" a  b\tc , safe", .ok ["https://a.b/1.png", "https://a.b/2.png"])] := by rfl
  generalize hfound : searches _ = found at hanswer
  have hfound' := hsearches.symm.trans hfound
  cases hanswer with
  | idle _ => cases hfound'
  | @found _ urls url hurl =>
      obtain ⟨-, hurls⟩ := Prod.mk.inj (List.cons.inj hfound').1
      cases hurls
      exact ⟨url, hurl, hreply⟩
  | nothing _ =>
      obtain ⟨-, hurls⟩ := Prod.mk.inj (List.cons.inj hfound').1
      cases hurls
  | failed _ e =>
      obtain ⟨-, hurls⟩ := Prod.mk.inj (List.cons.inj hfound').1
      cases hurls

/-- **Without a prefix there is no search**: then a message that begins with a verb is plain
chat. -/
theorem not_answersSearch_of_noPrefix :
    ¬ ∀ (ctx : Context) (command : Command) (verb text : String),
      ctx.registry = Registry.builtin → ctx.author.bot = false → command ∈ Command.builtin →
      command.action = .search → verb ∈ command.verbs → AnswersSearch ctx verb text := by
  intro h
  obtain ⟨command, hmem, hsearch, hverb⟩ : ∃ command ∈ Command.builtin,
      command.action = .search ∧ "db" ∈ command.verbs := by decide
  obtain ⟨reply, hreply, -⟩ := h
    { searching with settings := { searching.settings with commandPrefix := "" } } command "db"
    "pony" rfl rfl hmem hsearch hverb ponyBoard () ponyBoard_ne_empty
  cases hreply

end CommandBot
