/-
**What a message can set in motion.**

Nothing is asked of anybody about a message that is passed over, that is plain chat or whose verb
nobody declared.  A command is counted, which takes requests about the key of its author and one
write at most; what is asked after that depends on the command, and each has a window of its own.

Main definitions:

* `CommandBot.Request.store?`, `CommandBot.Request.isSearch`, `CommandBot.Request.isWrite` — kinds
  of questions;
* `CommandBot.Confined` — **what a command may have asked when its message is answered.**

Main results:

* `CommandBot.Action.asked_showImage`, `CommandBot.Action.asked_showRecord` — what the search and
  the command that shows a record ask;
* `CommandBot.asked_confined` — **nothing is asked unless for a command, and then only that.**
-/

import CommandBot.Bot.Commands
import CommandBot.Proofs.Bot.Answering
import CommandBot.Proofs.Bot.Conversation
import CommandBot.Proofs.Bot.Requests
import CommandBot.Proofs.Text.Blank
import CommandBot.Proofs.Users.Independence
import CommandBot.Proofs.Users.Writes

set_option relaxedAutoImplicit false
set_option autoImplicit false

namespace CommandBot

open Program

/-! ### Kinds of questions -/

namespace Request

/-- What is asked of the store. -/
def store? : Request → Option StoreRequest
  | .service (.store r) => some r
  | _ => none

/-- A question that writes to the store. -/
def isWrite (q : Request) : Bool := q.store?.any StoreRequest.isWrite

/-- A question to the image board. -/
def isSearch : Request → Bool
  | .service (.search _) => true
  | _ => false

theorem store?_eq_some_iff {q : Request} {r : StoreRequest} :
    q.store? = some r ↔ q = .service (.store r) := by
  constructor
  · intro h
    match q, h with
    | .service (.store _), rfl => rfl
  · rintro rfl
    rfl

theorem store?_eq_none_iff {q : Request} : q.store? = none ↔ q.isStore = false := by
  rw [Option.eq_none_iff_forall_ne_some, ← Bool.not_eq_true, isStore_iff]
  simp only [ne_eq, store?_eq_some_iff, not_exists]

theorem isWrite_of_leavesStore {q : Request} (h : q.LeavesStore) : ¬ q.isWrite = true := by
  match q, h with
  | .service (.store (.getAll _)), _ => exact Bool.false_ne_true
  | .service (.search _), _ => exact Bool.false_ne_true
  | .service (.shell _), _ => exact Bool.false_ne_true
  | .service (.readFile _), _ => exact Bool.false_ne_true
  | .authorIsAdmin, _ => exact Bool.false_ne_true
  | .authorVoice, _ => exact Bool.false_ne_true

theorem isSearch_iff {q : Request} :
    q.isSearch = true ↔ ∃ query, q = .service (.search query) := by
  constructor
  · intro h
    match q, h with
    | .service (.search query), _ => exact ⟨query, rfl⟩
  · rintro ⟨query, rfl⟩
    rfl

end Request

/-! ### Counting a command -/

/-- Counting a command asks about the key of its author only. -/
theorem countAuthor_isAbout (ctx : Context) :
    (countAuthor ctx).Asks fun q => ∃ r, q = .service (.store r) ∧ r.key = userKey ctx.author.id := by
  unfold countAuthor
  split
  · refine Asks.bind ?_ fun _ => .done _
    exact Task.asks_ofStore (Users.recordPost_asks ctx.now ctx.author) fun r hr => ⟨r, rfl, hr⟩
  · exact .done _

/-- Counting a command writes once at most. -/
theorem countAuthor_writes (ctx : Context) : (countAuthor ctx).AsksAtMost Request.isWrite 1 := by
  unfold countAuthor
  split
  · refine AsksAtMost.bind (n := 0) ?_ fun _ => .done 0 _
    refine (Users.recordPost_writes ctx.now ctx.author).translate ?_ ?_
    · exact fun _ => .spend fun _ => .done 0 _
    · exact fun r hr => .free hr fun _ => .done 0 _
  · exact .done 1 _

/-! ### Executing a command -/

/-- What was asked, without the answers. -/
def asked (exchanges : List ((q : Request) × q.Answer)) : List Request := exchanges.map Sigma.fst

theorem mem_asked {exchanges : List ((q : Request) × q.Answer)} {q : Request}
    (h : q ∈ asked exchanges) : ∃ x ∈ exchanges, x.1 = q := List.mem_map.1 h

/-- Words of which one has a visible character are not idle. -/
theorem Search.isIdle_eq_false_iff {args : List String} :
    isIdle args = false ↔ ∃ arg ∈ args, ∃ c ∈ arg.toList, Text.isSpace c = false := by
  simp [isIdle, Text.isEmpty_trim, Text.isBlank]

section Executing

variable {command : Command} {args : List String} {ctx : Context}
  {exchanges : List ((q : Request) × q.Answer)} {result : Except CommandError Reply}

/-- **The search asks one question, or none if the words say nothing.** -/
theorem Action.asked_showImage (h : Runs (showImage args ctx) exchanges result) :
    asked exchanges =
      if Search.isIdle args then []
      else [.service (.search (Search.query args ctx.channel.nsfw))] := by
  unfold showImage at h
  split at h
  · next hidle =>
      rw [(runs_done_iff.1 h).1, if_pos hidle]
      rfl
  · next hidle =>
      obtain ⟨found, rest, rfl, hrest⟩ := runs_ask_iff.1 h
      rw [(runs_done_iff.1 hrest).1, if_neg hidle]
      rfl

/-- **Showing a record takes one read, or none if there is no store.** -/
theorem Action.asked_showRecord (h : Runs (showRecord ctx) exchanges result) :
    asked exchanges =
      if ctx.hasStore then [.service (.store (.getAll (userKey (target ctx).id)))] else [] := by
  unfold showRecord at h
  split at h
  · next hstore =>
      obtain ⟨found, first, second, rfl, hfirst, hsecond⟩ := runs_bind_iff.1 h
      have hnil : second = [] := by
        cases found with
        | error e => exact (runs_done_iff.1 hsecond).1
        | ok record => exact (runs_done_iff.1 hsecond).1
      obtain ⟨hash, rest, rfl, hrest⟩ := runs_ask_iff.1 hfirst
      have hdone : rest = [] := by
        cases hash with
        | error e => exact (runs_done_iff.1 hrest).1
        | ok hash => exact (runs_done_iff.1 hrest).1
      rw [hnil, hdone, if_pos hstore]
      rfl
  · next hstore =>
      rw [(runs_done_iff.1 h).1, if_neg hstore]
      rfl

/-- A command that is executed does what its action does, or nothing. -/
theorem Command.runs_execute (h : Runs (command.execute args ctx) exchanges result) :
    exchanges = [] ∧ command.needsStore = true ∨
      Runs (command.action.perform args ctx) exchanges result := by
  unfold execute at h
  split at h
  · next hneeds =>
      rw [Bool.and_eq_true] at hneeds
      exact .inl ⟨(runs_done_iff.1 h).1, hneeds.1⟩
  · exact .inr h

/-- **A command of the bot reads one hash of the store at most**, and only to show a record. -/
theorem Command.asked_store (h : Runs (command.execute args ctx) exchanges result) :
    (asked exchanges).filterMap Request.store? = [] ∨
      command.action = .posts ∧ ctx.hasStore = true ∧
        (asked exchanges).filterMap Request.store? =
          [.getAll (userKey (Action.target ctx).id)] := by
  by_cases hposts : command.action = .posts
  · rcases runs_execute h with ⟨rfl, -⟩ | h
    · exact .inl rfl
    · rw [hposts] at h
      rw [Action.asked_showRecord h]
      split
      · next hstore => exact .inr ⟨hposts, hstore, rfl⟩
      · exact .inl rfl
  · refine .inl (List.filterMap_eq_nil_iff.2 fun q hq => ?_)
    obtain ⟨x, hx, rfl⟩ := mem_asked hq
    exact Request.store?_eq_none_iff.2 ((execute_offStore hposts args ctx).of_runs h x hx)

/-- **A command of the bot searches if it is the search and has something to search for**, and then
it does so once. -/
theorem Command.asked_search (hcommand : command ∈ Command.builtin)
    (h : Runs (command.execute args ctx) exchanges result) :
    (asked exchanges).filter Request.isSearch =
      if command.action = .search ∧ Search.isIdle args = false then
        [.service (.search (Search.query args ctx.channel.nsfw))]
      else [] := by
  by_cases hsearch : command.action = .search
  · have hneeds : ∀ c ∈ Command.builtin, c.action = .search → c.needsStore = false := by decide
    rcases runs_execute h with ⟨-, hstore⟩ | h
    · rw [hneeds command hcommand hsearch] at hstore
      cases hstore
    · rw [hsearch] at h
      rw [Action.asked_showImage h]
      cases hidle : Search.isIdle args with
      | true => rw [if_pos rfl, if_neg (by simp), List.filter_nil]
      | false => rw [if_neg (by simp), if_pos ⟨hsearch, rfl⟩]; rfl
  · rw [if_neg fun h => hsearch h.1, List.filter_eq_nil_iff]
    intro q hq hboard
    obtain ⟨x, hx, rfl⟩ := mem_asked hq
    obtain ⟨query, hquery⟩ := Request.isSearch_iff.1 hboard
    have hmay := (command.execute_asks args ctx).of_runs h x hx
    rw [hquery] at hmay
    exact hsearch hmay

end Executing

/-! ### Answering a message -/

/-- **What a command may have asked when its message is answered.** -/
structure Confined (ctx : Context) (command : Command) (args : List String)
    (questions : List Request) : Prop where
  /-- The store is asked about the author, and once more if a record is to be shown. -/
  store : ∃ counting further, questions.filterMap Request.store? = counting ++ further ∧
    (∀ r ∈ counting, r.key = userKey ctx.author.id) ∧
    (further = [] ∨ command.action = .posts ∧
      further = [.getAll (userKey (ctx.mentions.headD ctx.author).id)])
  /-- A store that is not there is not asked. -/
  noStore : ctx.hasStore = false → questions.filterMap Request.store? = []
  write : questions.countP Request.isWrite ≤ 1
  /-- The search asks the image board once, if there is something to search for. -/
  search : command.action = .search →
    (∃ arg ∈ args, ∃ c ∈ arg.toList, Text.isSpace c = false) →
    questions.filter Request.isSearch =
      [.service (.search (Search.query args ctx.channel.nsfw))]
  noSearch : ¬ (command.action = .search ∧
      ∃ arg ∈ args, ∃ c ∈ arg.toList, Text.isSpace c = false) →
    questions.filter Request.isSearch = []
  file : ∀ path, .service (.readFile path) ∈ questions → command.action = .sun
  shell : ∀ line, .service (.shell line) ∈ questions → command.action = .shell
  roles : .authorIsAdmin ∈ questions → command.action = .shell
  voice : .authorVoice ∈ questions → command.action = .join

section Answering

variable {ctx : Context} {command : Command} {args : List String}
  {exchanges : List ((q : Request) × q.Answer)}

/-- Counting a command asks the store, about the author. -/
theorem mem_asked_countAuthor (h : Runs (countAuthor ctx) exchanges ()) :
    ∀ q ∈ asked exchanges, ∃ r, q = .service (.store r) ∧ r.key = userKey ctx.author.id := by
  intro q hq
  obtain ⟨x, hx, rfl⟩ := mem_asked hq
  exact (countAuthor_isAbout ctx).of_runs h x hx

/-- Where there is no store, counting a command asks nothing. -/
theorem asked_countAuthor_of_noStore (hstore : ctx.hasStore = false)
    (h : Runs (countAuthor ctx) exchanges ()) : asked exchanges = [] := by
  rw [countAuthor, hstore] at h
  rw [(runs_done_iff.1 h).1]
  rfl

/-- **A command of the bot keeps to what it may have asked.** -/
theorem confined_of_runs (hcommand : command ∈ Command.builtin) {reply : Option Reply}
    (h : Runs (respondCommand ctx command args) exchanges reply) :
    Confined ctx command args (asked exchanges) := by
  obtain ⟨counting, executing, result, rfl, hcounting, hexecuting, -⟩ := runs_respondCommand h
  have hasked : asked (counting ++ executing) = asked counting ++ asked executing :=
    List.map_append
  -- What is not asked of the store is asked by the command itself.
  have hown : ∀ q, q.isStore = false → q ∈ asked counting ++ asked executing →
      command.action.MayAsk ctx q := by
    intro q hstore hq
    rcases List.mem_append.1 hq with hq | hq
    · obtain ⟨r, rfl, -⟩ := mem_asked_countAuthor hcounting q hq
      cases hstore
    · obtain ⟨x, hx, rfl⟩ := mem_asked hq
      exact (command.execute_asks args ctx).of_runs hexecuting x hx
  have hboard : (asked counting ++ asked executing).filter Request.isSearch =
      (asked executing).filter Request.isSearch := by
    rw [List.filter_append, List.filter_eq_nil_iff.2, List.nil_append]
    intro q hq
    obtain ⟨r, rfl, -⟩ := mem_asked_countAuthor hcounting q hq
    exact Bool.false_ne_true
  rw [hasked]
  refine ⟨?_, ?_, ?_, ?_, ?_, fun _ => hown _ rfl, fun _ => hown _ rfl, hown _ rfl, hown _ rfl⟩
  · refine ⟨_, _, List.filterMap_append .., ?_, ?_⟩
    · intro r hr
      obtain ⟨q, hq, hqr⟩ := List.mem_filterMap.1 hr
      obtain ⟨r', rfl, hkey⟩ := mem_asked_countAuthor hcounting q hq
      cases hqr
      exact hkey
    · rcases Command.asked_store hexecuting with hnone | ⟨hposts, -, hread⟩
      · exact .inl hnone
      · exact .inr ⟨hposts, hread⟩
  · intro hstore
    rw [asked_countAuthor_of_noStore hstore hcounting, List.nil_append]
    rcases Command.asked_store hexecuting with hnone | ⟨-, hthere, -⟩
    · exact hnone
    · rw [hstore] at hthere
      cases hthere
  · have hone := (countAuthor_writes ctx).countP_le hcounting
    have hnone : (asked executing).countP Request.isWrite = 0 := by
      rw [List.countP_eq_zero]
      intro q hq
      obtain ⟨x, hx, rfl⟩ := mem_asked hq
      have hleaves := (command.execute_leavesStore args ctx).of_runs hexecuting x hx
      exact Request.isWrite_of_leavesStore hleaves
    rw [List.countP_append, hnone]
    exact hone
  · intro hsearch hwords
    rw [hboard, Command.asked_search hcommand hexecuting,
      if_pos ⟨hsearch, Search.isIdle_eq_false_iff.2 hwords⟩]
  · intro hnot
    rw [hboard, Command.asked_search hcommand hexecuting, if_neg]
    rwa [Search.isIdle_eq_false_iff]

/-- **Nothing is asked unless for a command, and then only what it may have asked.**  Whoever
answers, and whatever the answers are: about a message that is passed over or routed to no command
nobody is asked anything. -/
theorem asked_confined {message : String} {reply : Option Reply}
    (hregistry : ctx.registry = Registry.builtin)
    (h : Runs (respond ctx message) exchanges reply) :
    (message = "" ∨ ctx.author.bot = true ∨
        (∀ command args,
          route ctx.settings.commandPrefix ctx.registry message ≠ .command command args) →
      exchanges = []) ∧
    ∀ command args, message ≠ "" → ctx.author.bot = false →
      route ctx.settings.commandPrefix ctx.registry message = .command command args →
      Confined ctx command args (asked exchanges) := by
  constructor
  · intro hnone
    by_cases hignored : ctx.Ignores message
    · rw [respond_of_ignores hignored] at h
      exact (runs_done_iff.1 h).1
    · have hroute : ∀ command args,
          route ctx.settings.commandPrefix ctx.registry message ≠ .command command args := by
        rcases hnone with hempty | hbot | hroute
        · exact absurd (.inl hempty) hignored
        · exact absurd (.inr hbot) hignored
        · exact hroute
      cases hto : route ctx.settings.commandPrefix ctx.registry message with
      | chat =>
          rw [respond_of_chat hignored hto] at h
          exact (runs_done_iff.1 h).1
      | unknown verb quiet =>
          rw [respond_of_unknown hignored hto] at h
          exact (runs_done_iff.1 h).1
      | command command args => exact absurd hto (hroute command args)
  · intro command args hnonempty hhuman hto
    have hignored : ¬ ctx.Ignores message := by
      rintro (hempty | hbot)
      · exact hnonempty hempty
      · rw [hhuman] at hbot
        cases hbot
    obtain ⟨verb, -, hverb⟩ := route_eq_command hto
    rw [hregistry] at hverb
    rw [respond_of_command hignored hto] at h
    exact confined_of_runs (Registry.resolve?_eq_some_iff_mem.1 hverb).1 h

end Answering

/-! ### A record of somebody else -/

/-- What a bot with an empty store knows when somebody asks for the record of somebody else. -/
def Conversation.askingAbout : Context :=
  lonely.context { Message.ping 7 "ann" with text := ".posts", mentions := [⟨8, "bob", false⟩] }

/-- What is exchanged then. -/
def Conversation.askingExchanges : List ((q : Request) × q.Answer) :=
  (respond askingAbout ".posts").transcript lonely.answer (Table.empty, ())

/-- The author is counted in four requests, and then the other record is read. -/
theorem asked_confined_posts :
    Conversation.askingAbout.registry = Registry.builtin ∧
    Runs (respond Conversation.askingAbout ".posts") Conversation.askingExchanges
      ((respond Conversation.askingAbout ".posts").run Conversation.lonely.answer
        (Table.empty, ())).1 ∧
    ∃ command, route "." Registry.builtin ".posts" = .command command [] ∧
      Confined Conversation.askingAbout command [] (asked Conversation.askingExchanges) ∧
      ((asked Conversation.askingExchanges).filterMap Request.store?).map
          (fun r => (r.key, r.isWrite)) =
        [("user:7", false), ("user:7", false), ("user:7", true), ("user:7", false),
          ("user:8", false)] := by
  have hruns := runs_transcript Conversation.lonely.answer
    (respond Conversation.askingAbout ".posts") (Table.empty, ())
  have hroute : ∃ command ∈ Command.builtin,
      route "." Registry.builtin ".posts" = .command command [] := by decide
  obtain ⟨command, -, hroute⟩ := hroute
  have hrequests : ((asked Conversation.askingExchanges).filterMap Request.store?).map
      (fun r => (r.key, r.isWrite)) =
        [("user:7", false), ("user:7", false), ("user:7", true), ("user:7", false),
          ("user:8", false)] := by decide +kernel
  obtain ⟨-, hconfined⟩ := asked_confined rfl hruns
  exact ⟨rfl, hruns, command, hroute, hconfined command [] (by decide) rfl hroute, hrequests⟩

end CommandBot
