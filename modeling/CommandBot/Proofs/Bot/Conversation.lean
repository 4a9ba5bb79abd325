/-
**Messages answered one after another.**

A bot that keeps records answers messages beside a store without faults.  Everything else that it
asks, of the image board, the host, the files and the chat service, is answered by surroundings
that may answer as they like and remember what they were asked.

Of all that happens to a message only the counting of its command reaches the store.

Main definitions:

* `CommandBot.Message` — a message with all that is known of it;
* `CommandBot.Conversation` — a bot that keeps records, and its surroundings;
* `CommandBot.Conversation.isCounted` — the messages that count for their author;
* `CommandBot.Conversation.afterAll` — the store, and the surroundings, after some messages;
* `CommandBot.Conversation.moments` — **the store at every moment of a conversation**;
* `CommandBot.Conversation.lonely` — a bot with nothing but a store.

Main results:

* `CommandBot.Conversation.after_of_isCounted`, `CommandBot.Conversation.after_of_not_isCounted` — a
  message that counts records one more command of its author, by way of no third store, and any
  other message leaves the store alone;
* `CommandBot.Conversation.forall_moments`, `CommandBot.Conversation.pairwise_moments` — what the
  counting of a command keeps holds at every moment, and what it does to the store holds between
  any two.
-/

import CommandBot.Bot.Commands
import CommandBot.Proofs.Bot.Answering
import CommandBot.Proofs.Bot.Requests
import CommandBot.Proofs.Users.Posts

set_option relaxedAutoImplicit false
set_option autoImplicit false

namespace CommandBot

/-! ### Conversations -/

/-- A message with all that is known of it when it is answered. -/
structure Message where
  text : String
  author : User
  channel : Channel
  /-- The users that the message mentions, in order. -/
  mentions : List User
  /-- The time. -/
  now : Timestamp
  /-- A number drawn at random for this message. -/
  draw : Nat
deriving DecidableEq, Repr

/-- A bot that keeps records, and its surroundings. -/
structure Conversation (σ : Type) where
  settings : Settings
  registry : Registry
  /-- What everything but the store answers, and what it is afterwards. -/
  outside : (q : Request) → σ → q.Answer × σ

/-- A route that ends at a command. -/
def Route.isCommand : Route → Bool
  | .command _ _ => true
  | _ => false

namespace Conversation

variable {σ : Type} (c : Conversation σ)

/-- What the bot knows when it answers a message. -/
def context (m : Message) : Context where
  settings := c.settings
  registry := c.registry
  author := m.author
  channel := m.channel
  mentions := m.mentions
  hasStore := true
  now := m.now
  draw := m.draw

/-- What the store and the surroundings answer. -/
def answer : (q : Request) → Store × σ → q.Answer × (Store × σ)
  | .service (.store r), s => ((Store.answer r s.1).1, (Store.answer r s.1).2, s.2)
  | q, s => ((c.outside q s.2).1, s.1, (c.outside q s.2).2)

/-- **The messages that count for their author**: those of people that invoke a command. -/
def isCounted (m : Message) : Bool :=
  !m.author.bot && (route c.settings.commandPrefix c.registry m.text).isCommand

/-- The messages that count for a user. -/
def commandsOf (u : UInt64) (messages : List Message) : List Message :=
  messages.filter fun m => c.isCounted m && m.author.id == u

/-- The program that answers a message. -/
def reply (m : Message) : Program Request.Answer (Option Reply) := respond (c.context m) m.text

/-- The store and the surroundings after a message. -/
def after (m : Message) (s : Store × σ) : Store × σ := ((c.reply m).run c.answer s).2

/-- The store and the surroundings after some messages. -/
def afterAll (messages : List Message) (s : Store × σ) : Store × σ :=
  messages.foldl (fun s m => c.after m s) s

/-- **The store at every moment of a conversation**: at the beginning, after each question that is
asked while a message is answered, and between the messages. -/
def moments : List Message → Store × σ → List Store
  | [], s => [s.1]
  | m :: rest, s =>
      s.1 :: ((c.reply m).states c.answer s).map Prod.fst ++ moments rest (c.after m s)

@[simp] theorem afterAll_nil (s : Store × σ) : c.afterAll [] s = s := rfl

@[simp] theorem afterAll_cons (m : Message) (rest : List Message) (s : Store × σ) :
    c.afterAll (m :: rest) s = c.afterAll rest (c.after m s) := rfl

@[simp] theorem commandsOf_nil (u : UInt64) : c.commandsOf u [] = [] := rfl

theorem commandsOf_cons (u : UInt64) (m : Message) (rest : List Message) :
    c.commandsOf u (m :: rest) =
      if c.isCounted m = true ∧ m.author.id = u then m :: c.commandsOf u rest
      else c.commandsOf u rest := by
  simp [commandsOf, List.filter_cons]

/-! ### What reaches the store -/

open Program

/-- The bot has a store without faults beside its surroundings. -/
theorem answer_eq_beside : c.answer = Request.beside Store.answer c.outside := by
  funext q s
  match q with
  | .service (.store _) => rfl
  | .service (.search _) => rfl
  | .service (.shell _) => rfl
  | .service (.readFile _) => rfl
  | .authorIsAdmin => rfl
  | .authorVoice => rfl

/-- A request that leaves the store as it is does so. -/
theorem store_answer (q : Request) (hq : q.LeavesStore) (s : Store × σ) :
    (c.answer q s).2.1 = s.1 := by
  rw [answer_eq_beside]
  exact Request.store_beside_of_leavesStore Store.answer c.outside id (fun _ _ => rfl) q hq s

/-- A message that does not count is answered without a question. -/
theorem reply_of_not_isCounted {m : Message} (h : c.isCounted m = false) :
    ∃ r, c.reply m = .done r := by
  by_cases hignored : (c.context m).Ignores m.text
  · exact ⟨none, respond_of_ignores hignored⟩
  · have hbot : m.author.bot = false := Bool.eq_false_iff.2 fun h => hignored (.inr h)
    cases hroute : route c.settings.commandPrefix c.registry m.text with
    | chat => exact ⟨_, respond_of_chat hignored hroute⟩
    | unknown verb quiet => exact ⟨_, respond_of_unknown hignored hroute⟩
    | command command args =>
        rw [isCounted, hbot, hroute] at h
        cases h

/-- A message that counts is counted, and then its command is executed. -/
theorem reply_of_isCounted {m : Message} (h : c.isCounted m = true) :
    ∃ command args, c.reply m = respondCommand (c.context m) command args := by
  rw [isCounted, Bool.and_eq_true, Bool.not_eq_true'] at h
  obtain ⟨hbot, hcommand⟩ := h
  cases hroute : route c.settings.commandPrefix c.registry m.text with
  | chat =>
      rw [hroute] at hcommand
      cases hcommand
  | unknown verb quiet =>
      rw [hroute] at hcommand
      cases hcommand
  | command command args =>
      have hignored : ¬ (c.context m).Ignores m.text := by
        rintro (hempty | h)
        · obtain ⟨verb, hparse, -⟩ := route_eq_command hroute
          -- A command begins with the prefix, which is not empty.
          obtain ⟨hlead, hmessage⟩ := Invocation.text_of_parse? hparse
          rw [hempty, Invocation.text] at hmessage
          exact hlead (String.append_eq_empty_iff.1 hmessage.symm).1
        · rw [show m.author.bot = true from h] at hbot
          cases hbot
      exact ⟨command, args, respond_of_command hignored hroute⟩

/-- Whoever leaves the store alone passes through no other store. -/
theorem states_of_leavesStore {α : Type} {p : Program Request.Answer α}
    (hp : p.Asks Request.LeavesStore) (s : Store × σ) :
    ∃ n, (p.states c.answer s).map Prod.fst = List.replicate n s.1 := by
  refine ⟨_, List.eq_replicate_iff.2 ⟨rfl, ?_⟩⟩
  intro t ht
  obtain ⟨state, hstate, rfl⟩ := List.mem_map.1 ht
  exact hp.view_states c.store_answer s state hstate

/-- Counting the author is one more command in the store. -/
theorem count_author (m : Message) (s : Store × σ) :
    ((countAuthor (c.context m)).run c.answer s).2.1 = s.1.afterPost m.now m.author ∧
      ∃ before after, ((countAuthor (c.context m)).states c.answer s).map Prod.fst =
        List.replicate before s.1 ++ List.replicate after (s.1.afterPost m.now m.author) := by
  obtain ⟨hstore, before, after, hstates⟩ := Users.run_recordPost s.1 m.now m.author
  have hcount : countAuthor (c.context m) =
      (Task.ofStore (Users.recordPost m.now m.author)).bind fun _ => .done () := rfl
  rw [hcount, run_bind, states_bind, answer_eq_beside, Task.run_ofStore_beside]
  refine ⟨hstore, before, after, ?_⟩
  rw [List.map_append, Task.states_ofStore_beside, hstates, states_done, List.map_nil,
    List.append_nil]

/-- **Of a message that counts, one more command of its author reaches the store.** -/
theorem after_of_isCounted {m : Message} (h : c.isCounted m = true) (s : Store × σ) :
    (c.after m s).1 = s.1.afterPost m.now m.author ∧
      ∃ before after, ((c.reply m).states c.answer s).map Prod.fst =
        List.replicate before s.1 ++ List.replicate after (s.1.afterPost m.now m.author) := by
  obtain ⟨command, args, hreply⟩ := c.reply_of_isCounted h
  obtain ⟨hstore, before, after, hstates⟩ := c.count_author m s
  -- What follows the counting leaves the store as the counting left it.
  have hrest : ((command.execute args (c.context m)).bind fun result =>
      (.done (replyOf result).nonempty? : Program Request.Answer _)).Asks
        Request.LeavesStore :=
    (command.execute_leavesStore args (c.context m)).bind fun _ => .done _
  obtain ⟨n, hn⟩ := c.states_of_leavesStore hrest ((countAuthor (c.context m)).run c.answer s).2
  have hafter := hrest.view_run c.store_answer ((countAuthor (c.context m)).run c.answer s).2
  rw [hstore] at hn hafter
  rw [Conversation.after, hreply, respondCommand, run_bind, states_bind, List.map_append, hstates,
    hn]
  refine ⟨hafter, before, after + n, ?_⟩
  rw [List.append_assoc, List.replicate_append_replicate]

/-- Any other message leaves everything as it was. -/
theorem after_of_not_isCounted {m : Message} (h : c.isCounted m = false) (s : Store × σ) :
    c.after m s = s ∧ (c.reply m).states c.answer s = [] := by
  obtain ⟨r, hr⟩ := c.reply_of_not_isCounted h
  rw [Conversation.after, hr]
  exact ⟨rfl, rfl⟩

/-! ### The store at every moment -/

/-- A conversation begins with the store as it is. -/
theorem mem_moments (messages : List Message) (s : Store × σ) : s.1 ∈ c.moments messages s := by
  cases messages with
  | nil => exact List.mem_singleton.2 rfl
  | cons m rest => exact List.mem_cons_self

theorem moments_of_not_isCounted {m : Message} (h : c.isCounted m = false)
    (rest : List Message) (s : Store × σ) :
    c.moments (m :: rest) s = s.1 :: c.moments rest s := by
  obtain ⟨hafter, hstates⟩ := c.after_of_not_isCounted h s
  rw [moments, hafter, hstates]
  rfl

theorem moments_of_isCounted {m : Message} (h : c.isCounted m = true)
    (rest : List Message) (s : Store × σ) :
    ∃ before after, c.moments (m :: rest) s =
      List.replicate (before + 1) s.1 ++
        (List.replicate after (c.after m s).1 ++ c.moments rest (c.after m s)) := by
  obtain ⟨hstore, before, after, hstates⟩ := c.after_of_isCounted h s
  refine ⟨before, after, ?_⟩
  rw [moments, hstates, ← hstore, List.replicate_succ]
  simp

/-- **What the counting of a command keeps holds at every moment.** -/
theorem forall_moments {P : Store → Prop} (messages : List Message)
    (hkeep : ∀ m ∈ messages, c.isCounted m = true → ∀ t, P t → P (t.afterPost m.now m.author))
    (s : Store × σ) (hs : P s.1) : ∀ t ∈ c.moments messages s, P t := by
  induction messages generalizing s with
  | nil =>
      intro t ht
      rw [List.mem_singleton.1 ht]
      exact hs
  | cons m rest ih =>
      have hrest : ∀ s : Store × σ, P s.1 → ∀ t ∈ c.moments rest s, P t := by
        refine ih fun m' hm' => ?_
        exact hkeep m' (List.mem_cons_of_mem m hm')
      intro t ht
      cases hcount : c.isCounted m with
      | false =>
          rw [c.moments_of_not_isCounted hcount] at ht
          rcases List.mem_cons.1 ht with rfl | ht
          · exact hs
          · exact hrest s hs t ht
      | true =>
          have hafter : P (c.after m s).1 := by
            rw [(c.after_of_isCounted hcount s).1]
            exact hkeep m List.mem_cons_self hcount s.1 hs
          obtain ⟨before, after, hmoments⟩ := c.moments_of_isCounted hcount rest s
          rw [hmoments, List.mem_append, List.mem_append] at ht
          rcases ht with ht | ht | ht
          · rw [List.eq_of_mem_replicate ht]
            exact hs
          · rw [List.eq_of_mem_replicate ht]
            exact hafter
          · exact hrest _ hafter t ht

/-- The last moment of a conversation is what it leads to. -/
theorem afterAll_mem_moments (messages : List Message) (s : Store × σ) :
    (c.afterAll messages s).1 ∈ c.moments messages s := by
  induction messages generalizing s with
  | nil => exact List.mem_singleton.2 rfl
  | cons m rest ih => exact List.mem_append_right _ (ih (c.after m s))

/-- A reflexive relation between any two moments holds between the first and every one. -/
theorem of_pairwise_moments {R : Store → Store → Prop} (hrefl : ∀ t, R t t)
    {messages : List Message} {s : Store × σ} (h : (c.moments messages s).Pairwise R) :
    ∀ t ∈ c.moments messages s, R s.1 t := by
  intro t ht
  cases messages with
  | nil =>
      rw [List.mem_singleton.1 ht]
      exact hrefl s.1
  | cons m rest =>
      rcases List.mem_cons.1 ht with rfl | ht
      · exact hrefl s.1
      · exact List.rel_of_pairwise_cons h ht

/-- **What the counting of a command does to the store, any two moments do to each other**, if it is
reflexive and transitive.  The invariant speaks of the messages to come. -/
theorem pairwise_moments {R : Store → Store → Prop} (Inv : List Message → Store → Prop)
    (hrefl : ∀ t, R t t) (htrans : ∀ t t' t'', R t t' → R t' t'' → R t t'')
    (hcount : ∀ m rest t, c.isCounted m = true → Inv (m :: rest) t →
      R t (t.afterPost m.now m.author) ∧ Inv rest (t.afterPost m.now m.author))
    (hskip : ∀ m rest t, c.isCounted m = false → Inv (m :: rest) t → Inv rest t)
    (messages : List Message) (s : Store × σ) (hs : Inv messages s.1) :
    (c.moments messages s).Pairwise R := by
  induction messages generalizing s with
  | nil => exact List.pairwise_singleton R s.1
  | cons m rest ih =>
      cases h : c.isCounted m with
      | false =>
          rw [c.moments_of_not_isCounted h, List.pairwise_cons]
          have hrest := ih s (hskip m rest s.1 h hs)
          exact ⟨c.of_pairwise_moments hrefl hrest, hrest⟩
      | true =>
          obtain ⟨hstep, hinv⟩ := hcount m rest s.1 h hs
          rw [← (c.after_of_isCounted h s).1] at hstep hinv
          have hrest := ih (c.after m s) hinv
          have hfrom := c.of_pairwise_moments hrefl hrest
          -- Up to the next message there are two stores only, and the second begins the rest.
          obtain ⟨before, after, hmoments⟩ := c.moments_of_isCounted h rest s
          rw [hmoments, List.pairwise_append, List.pairwise_append]
          refine ⟨List.pairwise_replicate.2 (.inr (hrefl _)),
            ⟨List.pairwise_replicate.2 (.inr (hrefl _)), hrest, ?_⟩, ?_⟩
          · intro t ht t' ht'
            rw [List.eq_of_mem_replicate ht]
            exact hfrom t' ht'
          · intro t ht t' ht'
            rw [List.eq_of_mem_replicate ht]
            rcases List.mem_append.1 ht' with ht' | ht'
            · rw [List.eq_of_mem_replicate ht']
              exact hstep
            · exact htrans _ _ _ hstep (hfrom t' ht')

/-! ### A bot with nothing but a store -/

/-- The answer of surroundings in which nothing works. -/
def refuse : (q : Request) → q.Answer
  | .service s => s.refuse
  | .authorIsAdmin => Except.ok false
  | .authorVoice => none

/-- The bot with its own commands, in surroundings in which nothing works. -/
def lonely : Conversation Unit where
  settings := ⟨"token", Settings.defaultPrefix, false, false, none, none, none, "assets"⟩
  registry := Registry.builtin
  outside q _ := (refuse q, ())

end Conversation

/-- The message by which someone asks whether the bot is there. -/
def Message.ping (id : UInt64) (name : String) : Message where
  text := ".ping"
  author := ⟨id, name, false⟩
  channel := ⟨1, none, false⟩
  mentions := []
  now := .epoch
  draw := 0

end CommandBot
