/-
**The counter counts.**

However long a conversation is and whatever its commands come to, the counter of a user shows at its
end how many of the messages were commands of theirs, on top of what it showed before.  It stops at
the greatest number that it can show.  Nothing is written under any other key, and a hash that
cannot be read stays as it is for ever.

Names have to be there for this: an empty name makes a record nobody's.

Main definitions:

* `CommandBot.Conversation.Touches` — the users whose hashes a conversation changes.

Main results:

* `CommandBot.Conversation.get?_moments` — **all other hashes stay as they are**, at every moment;
* `CommandBot.Conversation.record_afterAll` — the record that a user ends with;
* `CommandBot.Conversation.counts_commands` — **exactly the commands are counted.**
-/

import CommandBot.Proofs.Bot.Conversation
import Mathlib.Tactic.ByContra

set_option relaxedAutoImplicit false
set_option autoImplicit false

namespace CommandBot

namespace Store

theorem postCount_congr {s t : Store} {id : UInt64} (h : t.record id = s.record id) :
    t.postCount id = s.postCount id := by
  simp only [postCount, h]

theorem isUnreadable_congr {s t : Store} {id : UInt64} (h : t.record id = s.record id) :
    t.IsUnreadable id ↔ s.IsUnreadable id := by
  simp only [IsUnreadable, h]

end Store

namespace Conversation

variable {σ : Type} (c : Conversation σ)

/-! ### What stays as it is -/

theorem mem_commandsOf {u : UInt64} {m : Message} {messages : List Message} :
    m ∈ c.commandsOf u messages ↔ m ∈ messages ∧ c.isCounted m = true ∧ m.author.id = u := by
  simp [commandsOf, List.mem_filter]

/-- The users whose hashes a conversation changes: those who send commands, unless their hash cannot
be read. -/
def Touches (messages : List Message) (s : Store) (u : UInt64) : Prop :=
  c.commandsOf u messages ≠ [] ∧ ¬ s.IsUnreadable u

/-- **All other hashes stay as they are**, at every moment. -/
theorem get?_moments {key : String} {messages : List Message} {s : Store × σ}
    (hkey : ∀ u, c.Touches messages s.1 u → key ≠ userKey u) :
    ∀ t ∈ c.moments messages s, t.get? key = s.1.get? key := by
  refine c.forall_moments messages ?_ s rfl
  intro m hm hcount t ht
  by_cases hown : key = userKey m.author.id
  · -- The author does send a command, so it must be that the hash cannot be read.
    have hnonempty : c.commandsOf m.author.id messages ≠ [] :=
      List.ne_nil_of_mem (c.mem_commandsOf.2 ⟨hm, hcount, rfl⟩)
    have hstart : s.1.IsUnreadable m.author.id := by
      by_contra hread
      exact hkey m.author.id ⟨hnonempty, hread⟩ hown
    have hrecord : t.record m.author.id = s.1.record m.author.id :=
      Store.record_congr (by rw [← hown, ht])
    rw [Store.afterPost_of_isUnreadable ((Store.isUnreadable_congr hrecord).2 hstart)]
    exact ht
  · rw [Store.get?_afterPost_of_ne (Ne.symm hown)]
    exact ht

theorem get?_afterAll {u : UInt64} {messages : List Message} {s : Store × σ}
    (h : ¬ c.Touches messages s.1 u) :
    (c.afterAll messages s).1.get? (userKey u) = s.1.get? (userKey u) := by
  refine c.get?_moments ?_ _ (c.afterAll_mem_moments messages s)
  intro u' htouch hkey
  rw [userKey_injective hkey] at h
  exact h htouch

/-- A message that does not count for a user leaves their hash as it is. -/
theorem get?_after {u : UInt64} {m : Message} (h : ¬ (c.isCounted m = true ∧ m.author.id = u))
    (s : Store × σ) : (c.after m s).1.get? (userKey u) = s.1.get? (userKey u) := by
  have hnone : c.commandsOf u [m] = [] := by rw [commandsOf_cons, if_neg h, commandsOf_nil]
  have hafter : (c.afterAll [m] s).1.get? (userKey u) = s.1.get? (userKey u) :=
    c.get?_afterAll fun htouch => htouch.1 hnone
  exact hafter

/-! ### What is counted -/

/-- **The record that a user ends with**, who sent a command at all. -/
theorem record_afterAll {u : UInt64} {messages : List Message}
    (hnames : ∀ m ∈ messages, m.author.username ≠ "") {last : Message}
    (hlast : (c.commandsOf u messages).getLast? = some last) {s : Store × σ}
    (hread : ¬ s.1.IsUnreadable u) :
    ∃ r, (c.afterAll messages s).1.record u = .ok r ∧
      r.posts.toNat =
        min (s.1.postCount u + (c.commandsOf u messages).length) Users.maxCount ∧
      r.username = last.author.username := by
  induction messages generalizing s last with
  | nil => cases hlast
  | cons m rest ih =>
      have hrest : ∀ m' ∈ rest, m'.author.username ≠ "" := by
        intro m' hm'
        exact hnames m' (List.mem_cons_of_mem m hm')
      rw [afterAll_cons]
      by_cases hm : c.isCounted m = true ∧ m.author.id = u
      · obtain ⟨hcount, rfl⟩ := hm
        have hcommands : c.commandsOf m.author.id (m :: rest) =
            m :: c.commandsOf m.author.id rest := by
          rw [commandsOf_cons, if_pos ⟨hcount, rfl⟩]
        obtain ⟨r, hr, hname, hposts⟩ :=
          Store.record_afterPost m.now (hnames m List.mem_cons_self) hread
        rw [← (c.after_of_isCounted hcount s).1] at hr
        rw [hcommands, List.getLast?_cons, Option.some.injEq] at hlast
        rw [hcommands, List.length_cons]
        cases hlater : (c.commandsOf m.author.id rest).getLast? with
        | none =>
            -- This was the last command, and nothing that follows touches the hash.
            have hnone := List.getLast?_eq_none_iff.1 hlater
            have hsame : (c.afterAll rest (c.after m s)).1.record m.author.id = .ok r := by
              rw [← hr]
              exact Store.record_congr (c.get?_afterAll fun htouch => htouch.1 hnone)
            rw [hlater, Option.getD_none] at hlast
            refine ⟨r, hsame, ?_, ?_⟩
            · rw [hposts, hnone, List.length_nil, Nat.zero_add]
            · rw [hname, ← hlast]
        | some later =>
            -- More commands follow, and count on from the record that this one leaves.
            have hcounted : (c.after m s).1.postCount m.author.id = r.posts.toNat := by
              simp only [Store.postCount, hr]
            obtain ⟨r', hr', hposts', hname'⟩ :=
              ih hrest hlater (Store.not_isUnreadable_of_ok hr)
            rw [hlater, Option.getD_some] at hlast
            refine ⟨r', hr', ?_, by rw [hname', ← hlast]⟩
            rw [hposts', hcounted, hposts]
            omega
      · -- The message does not count for this user, so that the record is as it was.
        have hcommands : c.commandsOf u (m :: rest) = c.commandsOf u rest := by
          rw [commandsOf_cons, if_neg hm]
        have hrecord : (c.after m s).1.record u = s.1.record u :=
          Store.record_congr (c.get?_after hm s)
        rw [hcommands] at hlast ⊢
        rw [← Store.postCount_congr hrecord]
        exact ih hrest hlast fun h => hread ((Store.isUnreadable_congr hrecord).1 h)

/-- **Exactly the commands are counted.**  A user who sends none, or whose hash cannot be read,
keeps their hash as it is.  Everyone else can be found with as many commands more as they sent, up
to the greatest count, and under the name that they sent the last one with.  No other key is ever
written to. -/
theorem counts_commands (messages : List Message)
    (hnames : ∀ m ∈ messages, m.author.username ≠ "") (s : Store × σ) :
    (∀ u, c.commandsOf u messages = [] ∨ s.1.IsUnreadable u →
      (c.afterAll messages s).1.get? (userKey u) = s.1.get? (userKey u)) ∧
    (∀ u last, (c.commandsOf u messages).getLast? = some last → ¬ s.1.IsUnreadable u →
      ∃ r, ((Users.find u).run Store.answer (c.afterAll messages s).1).1 = .ok r ∧
        r.posts.toNat =
          min (s.1.postCount u + (c.commandsOf u messages).length) Users.maxCount ∧
        r.username = last.author.username) ∧
    (∀ key, (∀ u, c.commandsOf u messages ≠ [] → ¬ s.1.IsUnreadable u → key ≠ userKey u) →
      ∀ t ∈ c.moments messages s, t.get? key = s.1.get? key) := by
  refine ⟨?_, ?_, ?_⟩
  · rintro u (hnone | hread)
    · exact c.get?_afterAll fun htouch => htouch.1 hnone
    · exact c.get?_afterAll fun htouch => htouch.2 hread
  · intro u last hlast hread
    exact c.record_afterAll hnames hlast hread
  · intro key hkey
    exact c.get?_moments fun u htouch => hkey u htouch.1 htouch.2

/-- Two people ask whether the bot is there, one of them twice and under a second name. -/
theorem counts_commands_pings :
    (∀ m ∈ [Message.ping 7 "ann", .ping 8 "bob", .ping 7 "anna"], m.author.username ≠ "") ∧
    ∃ r, ((Users.find 7).run Store.answer
        (lonely.afterAll [.ping 7 "ann", .ping 8 "bob", .ping 7 "anna"] (Table.empty, ())).1).1 =
          .ok r ∧
      r.posts.toNat = 2 ∧ r.username = "anna" := by
  have hnames : ∀ m ∈ [Message.ping 7 "ann", .ping 8 "bob", .ping 7 "anna"],
      m.author.username ≠ "" := by decide
  have hlast : (lonely.commandsOf 7 [.ping 7 "ann", .ping 8 "bob", .ping 7 "anna"]).getLast? =
      some (.ping 7 "anna") := by decide
  have hread : ¬ Store.IsUnreadable Table.empty 7 := Store.not_isUnreadable_of_notFound rfl
  obtain ⟨-, hcount, -⟩ := lonely.counts_commands _ hnames (Table.empty, ())
  obtain ⟨r, hr, hposts, hname⟩ := hcount 7 _ hlast hread
  exact ⟨hnames, r, hr, hposts, hname⟩

end Conversation

end CommandBot
