/-
**A post count counts itself.**

The command that shows a record is counted like any other, and before the record is read.  So
whoever asks for their own count is told one more than was stored, and is never unknown.  Of anyone
else it is told what was stored, and nothing of theirs is written.

Main definitions:

* `CommandBot.Message.target` — the user whose record a message asks for;
* `CommandBot.Conversation.AsksCount` — the messages of people that ask for a record;
* `CommandBot.Stats.outcome` — what the command comes to when it has read a hash;
* `CommandBot.ShowsCount` — a reply that shows a count.

Main results:

* `CommandBot.Conversation.run_reply_of_asksCount` — **the author is counted, then the record is
  read and shown**;
* `CommandBot.Conversation.shows_after_counting` — what is shown of the author and of others.
-/

import CommandBot.Proofs.Bot.Conversation
import CommandBot.Proofs.Bot.Silence

set_option relaxedAutoImplicit false
set_option autoImplicit false

namespace CommandBot

open Program

/-! ### The messages -/

/-- The user whose record a message asks for: the first one mentioned, or else the author. -/
def Message.target (m : Message) : User := m.mentions.headD m.author

/-- **The messages of people that ask for a record**, by any verb of the command that shows one. -/
structure Conversation.AsksCount {σ : Type} (c : Conversation σ) (m : Message) : Prop where
  builtin : c.registry = Registry.builtin
  human : m.author.bot = false
  named : m.author.username ≠ ""
  written : ∃ command ∈ Command.builtin, command.action = .posts ∧ ∃ verb ∈ command.verbs, ∃ args,
    Invocation.IsWritten c.settings.commandPrefix m.text ⟨verb, args⟩

/-! ### The replies -/

/-- What the command comes to when it has read a hash. -/
def Stats.outcome : Except StoreError UserRecord → Except CommandError Reply
  | .ok r => .ok (.ofEmbed (Stats.embed r))
  | .error e => .error (.ofStore e)

/-- The reply is an embed that shows a count first. -/
def ShowsCount (reply : Reply) (n : Nat) : Prop :=
  ∃ embed, reply = .ofEmbed embed ∧ embed.fields.head? = some ⟨"Posts", n.repr, true⟩

theorem Stats.speaks_outcome (found : Except StoreError UserRecord) :
    Speaks (Stats.outcome found) := by
  cases found with
  | ok r => exact speaks_ok (Reply.isEmpty_ofEmbed _)
  | error e => exact speaks_error _

theorem Stats.showsCount {found : Except StoreError UserRecord} {r : UserRecord}
    (h : found = .ok r) : ShowsCount (replyOf (Stats.outcome found)) r.posts.toNat := by
  rw [h]
  exact ⟨Stats.embed r, rfl, rfl⟩

/-- What is told of a user who is unknown. -/
theorem Stats.reply_notFound : replyOf (Stats.outcome (.error .notFound)) =
    .ofText "❌ That user isn't in the database yet." := by
  decide

/-- What is told of a record that cannot be read. -/
theorem Stats.reply_malformed (field value : String) :
    replyOf (Stats.outcome (.error (.malformed field value))) =
      .ofText ("❌ Database error. (malformed field '" ++ field ++ "': '" ++ value ++ "')") := by
  have hmessage : (CommandError.ofStore (.malformed field value)).message =
      "Database error. (" ++ ("malformed field '" ++ field ++ "': '" ++ value ++ "'") ++ ")" := rfl
  have hstart : "❌ Database error. (malformed field '" =
      "❌ " ++ ("Database error. (" ++ "malformed field '") := by decide
  have hend : "')" = "'" ++ ")" := by decide
  rw [Stats.outcome, replyOf, CommandError.reply, hmessage, hstart, hend]
  simp only [String.append_assoc]

/-! ### The run -/

namespace Conversation

variable {σ : Type} {c : Conversation σ} {m : Message}

/-- A message that asks for a record goes to the command that shows one. -/
theorem AsksCount.reply_eq (h : c.AsksCount m) :
    ∃ command args, command.action = .posts ∧
      c.reply m = respondCommand (c.context m) command args := by
  obtain ⟨command, hcommand, hposts, verb, hverb, args, hwritten⟩ := h.written
  have hroute : route c.settings.commandPrefix c.registry m.text = .command command args := by
    rw [h.builtin]
    exact route_eq_command_iff.2 ⟨verb, hwritten, hcommand, hverb⟩
  exact ⟨command, args, hposts,
    respond_of_command (not_ignores_of_isWritten h.human hwritten) hroute⟩

variable (c m)

/-- The author is counted, and nobody but the store is asked. -/
theorem run_countAuthor (s : Store × σ) :
    (countAuthor (c.context m)).run c.answer s = ((), s.1.afterPost m.now m.author, s.2) := by
  have hcount : countAuthor (c.context m) =
      (Task.ofStore (Users.recordPost m.now m.author)).bind fun _ => .done () := rfl
  obtain ⟨hstore, -⟩ := Users.run_recordPost s.1 m.now m.author
  rw [hcount, run_bind, answer_eq_beside, Task.run_ofStore_beside, hstore]
  rfl

/-- The record is read and shown, and the store stays as it is. -/
theorem run_showRecord (s : Store × σ) :
    (Action.showRecord (c.context m)).run c.answer s =
      (Stats.outcome (s.1.record m.target.id), s) := by
  have hshow : Action.showRecord (c.context m) =
      (Task.ofStore (Users.find m.target.id)).bind fun
        | .ok record => Task.ok (.ofEmbed (Stats.embed record))
        | .error e => Task.fail (.ofStore e) := rfl
  rw [hshow, run_bind, answer_eq_beside, Task.run_ofStore_beside, Users.run_find]
  cases s.1.record m.target.id with
  | ok r => rfl
  | error e => rfl

variable {c m}

/-- **The author is counted, then the record is read and shown.** -/
theorem run_reply_of_asksCount (h : c.AsksCount m) (s : Store × σ) :
    (c.reply m).run c.answer s =
      (some (replyOf (Stats.outcome ((s.1.afterPost m.now m.author).record m.target.id))),
        s.1.afterPost m.now m.author, s.2) := by
  obtain ⟨command, args, hposts, hreply⟩ := h.reply_eq
  have hexecute : command.execute args (c.context m) = Action.showRecord (c.context m) := by
    have hstore : (command.needsStore && !(c.context m).hasStore) = false := Bool.and_false _
    rw [Command.execute, hstore, hposts]
    rfl
  rw [hreply, respondCommand, run_bind, run_countAuthor, hexecute, run_bind, run_showRecord,
    run_done, (Stats.speaks_outcome _).nonempty?_replyOf]

/-- **A post count is read after its own recording.**  The reply shows what the hash of the target
holds when the command of the author has been recorded, and that is all that is written.  So an
author who is known or new sees one command more, whether or not they mention themselves.  A
stranger who is mentioned stays one, and a hash that cannot be read is complained of and stays as it
is. -/
theorem shows_after_counting (h : c.AsksCount m) (s : Store × σ) :
    ∃ (reply : Reply) (t : Store),
      (c.reply m).run c.answer s = (some reply, t, s.2) ∧
      t = ((Users.recordPost m.now m.author).run Store.answer s.1).2 ∧
      reply = replyOf (Stats.outcome
        (UserRecord.ofHash m.target.id (t.hash (userKey m.target.id)))) ∧
      (m.target.id = m.author.id →
        (∀ r, s.1.record m.author.id = .ok r →
          ShowsCount reply (min (r.posts.toNat + 1) Users.maxCount)) ∧
        (s.1.record m.author.id = .error .notFound → ShowsCount reply 1)) ∧
      (m.target.id ≠ m.author.id →
        t.get? (userKey m.target.id) = s.1.get? (userKey m.target.id) ∧
        (s.1.record m.target.id = .error .notFound →
          reply = .ofText "❌ That user isn't in the database yet.")) ∧
      ∀ field value, s.1.record m.target.id = .error (.malformed field value) →
        t.get? (userKey m.target.id) = s.1.get? (userKey m.target.id) ∧
        reply =
          .ofText ("❌ Database error. (malformed field '" ++ field ++ "': '" ++ value ++ "')") := by
  have hother : m.target.id ≠ m.author.id →
      (s.1.afterPost m.now m.author).get? (userKey m.target.id) =
        s.1.get? (userKey m.target.id) := by
    intro hne
    exact Store.get?_afterPost_of_ne fun hkey => hne (userKey_injective hkey).symm
  refine ⟨_, _, run_reply_of_asksCount h s, (Users.run_recordPost s.1 m.now m.author).1.symm, rfl,
    fun hown => ⟨?known, ?new⟩, fun hne => ⟨hother hne, ?stranger⟩, ?malformed⟩
  case known =>
    intro r hr
    obtain ⟨r', hr', -, hposts⟩ :=
      Store.record_afterPost m.now h.named (Store.not_isUnreadable_of_ok hr)
    have hcount : s.1.postCount m.author.id = r.posts.toNat := by simp only [Store.postCount, hr]
    rw [hown, ← hcount, ← hposts]
    exact Stats.showsCount hr'
  case new =>
    intro hr
    obtain ⟨r', hr', -, hposts⟩ :=
      Store.record_afterPost m.now h.named (Store.not_isUnreadable_of_notFound hr)
    have hcount : s.1.postCount m.author.id = 0 := by simp only [Store.postCount, hr]
    have hone : r'.posts.toNat = 1 := by
      rw [hposts, hcount]
      decide
    rw [hown, ← hone]
    exact Stats.showsCount hr'
  case stranger =>
    intro hr
    rw [Store.record_congr (hother hne), hr]
    exact Stats.reply_notFound
  case malformed =>
    intro field value hr
    have hkept : (s.1.afterPost m.now m.author).get? (userKey m.target.id) =
        s.1.get? (userKey m.target.id) := by
      by_cases hown : m.target.id = m.author.id
      · -- The command of an author whose hash cannot be read is not recorded at all.
        rw [hown] at hr
        rw [Store.afterPost_of_isUnreadable ⟨field, value, hr⟩]
      · exact hother hown
    refine ⟨hkept, ?_⟩
    rw [Store.record_congr hkept, hr]
    exact Stats.reply_malformed field value

/-- A store with one hash, which cannot be read. -/
def garbledStore : Store :=
  Table.empty.set "user:8" (Table.empty.setAll [("username", "bob"), ("posts", "many")])

/-- Someone asks for the record of the first user mentioned, or for their own. -/
def askFor (mentions : List User) : Message :=
  { Message.ping 7 "ann" with text := ".posts", mentions := mentions }

theorem asksCount_askFor (mentions : List User) : lonely.AsksCount (askFor mentions) := by
  have hname : "ann" ≠ "" := by decide
  have hwritten : Invocation.IsWritten "." ".posts" ⟨"posts", []⟩ :=
    ⟨by decide, by decide, by decide⟩
  have hcommand : ∃ command ∈ Command.builtin, command.action = .posts ∧
      "posts" ∈ command.verbs := by decide
  obtain ⟨command, hbuiltin, hposts, hverb⟩ := hcommand
  exact ⟨rfl, rfl, hname, command, hbuiltin, hposts, "posts", hverb, [], hwritten⟩

/-- A newcomer sees one command, a stranger stays one, and a counter that is no number is shown. -/
theorem shows_after_counting_threeTargets :
    (∀ mentions, lonely.AsksCount (askFor mentions)) ∧
    (∃ reply t, (lonely.reply (askFor [])).run lonely.answer (garbledStore, ()) =
      (some reply, t, ()) ∧ ShowsCount reply 1) ∧
    (∃ t, (lonely.reply (askFor [⟨9, "eve", false⟩])).run lonely.answer (garbledStore, ()) =
      (some (.ofText "❌ That user isn't in the database yet."), t, ()) ∧
        t.get? "user:9" = none) ∧
    ∃ t, (lonely.reply (askFor [⟨8, "bob", false⟩])).run lonely.answer (garbledStore, ()) =
      (some (.ofText "❌ Database error. (malformed field 'posts': 'many')"), t, ()) ∧
        t.get? "user:8" = garbledStore.get? "user:8" := by
  refine ⟨asksCount_askFor, ?_, ?_, ?_⟩
  · obtain ⟨reply, t, hrun, -, -, hown, -, -⟩ :=
      shows_after_counting (asksCount_askFor []) (garbledStore, ())
    exact ⟨reply, t, hrun, (hown rfl).2 (by decide +kernel)⟩
  · obtain ⟨reply, t, hrun, -, -, -, hother, -⟩ :=
      shows_after_counting (asksCount_askFor [⟨9, "eve", false⟩]) (garbledStore, ())
    obtain ⟨hkept, hstranger⟩ := hother (by decide)
    rw [hstranger (by decide +kernel)] at hrun
    exact ⟨t, hrun, hkept⟩
  · obtain ⟨reply, t, hrun, -, -, -, -, hmalformed⟩ :=
      shows_after_counting (asksCount_askFor [⟨8, "bob", false⟩]) (garbledStore, ())
    obtain ⟨hkept, hreply⟩ := hmalformed "posts" "many" (by decide +kernel)
    rw [hreply] at hrun
    exact ⟨t, hrun, hkept⟩

end Conversation

end CommandBot
