/-
**No message breaks a record.**

Of all that happens to a message only the counting of its command writes to the store, and only
people are counted, from one on.  So a store that only messages have written to holds whole records
of people with at least one command, whatever fails while they are answered.

Main definitions:

* `CommandBot.Received` — a message, with the failures that its requests to the store meet with;
* `CommandBot.afterReceived` — **the store, and its surroundings, after some messages.**

Main results:

* `CommandBot.Received.advances` — a message makes the record of a person or counts one command
  more;
* `CommandBot.records_stay_whole` — **neither operations nor messages break a record.**
-/

import CommandBot.Proofs.Bot.Backends
import CommandBot.Proofs.Users.WholeRecords

set_option relaxedAutoImplicit false
set_option autoImplicit false

namespace CommandBot

open Program

/-! ### Messages among failures -/

/-- A message with all that is known of it, and the failures that its requests to the store meet
with. -/
structure Received where
  context : Context
  text : String
  faults : Faults
deriving DecidableEq, Repr

section Messages

variable {σ : Type} (outside : (q : Request) → σ → q.Answer × σ)

/-- The store, without the failures to come and its surroundings. -/
def storeOf (s : (Store × Faults) × σ) : Store := s.1.1

/-- The store and its surroundings after a message. -/
def Received.after (m : Received) (s : Store × σ) : Store × σ :=
  let after := ((respond m.context m.text).run (Request.beside Store.answerOrFail outside)
    ((s.1, m.faults), s.2)).2
  (storeOf after, after.2)

/-- **The store and its surroundings after some messages.** -/
def afterReceived (messages : List Received) (s : Store × σ) : Store × σ :=
  messages.foldl (fun s m => m.after outside s) s

/-- Counting the author makes the author's record, or counts one command more in it. -/
theorem countAuthor_advances (ctx : Context) (s : (Store × Faults) × σ) :
    (storeOf s).Advances (· = ctx.author)
      (fun r u => u = .ofPost ctx.author (Users.nextCount r.posts) ctx.now)
      (storeOf ((countAuthor ctx).run (Request.beside Store.answerOrFail outside) s).2) := by
  unfold countAuthor
  split
  · rw [run_bind, Task.run_ofStore_beside]
    exact Users.recordPost_advances s.1.1 s.1.2 ctx.now ctx.author
  · exact .same

/-- **A message makes the record of a person, or counts one command more in a record.** -/
theorem Received.advances (m : Received) (s : Store × σ) :
    s.1.Advances (fun user => user.bot = false)
      (fun r u => ∃ user now, u = .ofPost user (Users.nextCount r.posts) now)
      (m.after outside s).1 := by
  unfold Received.after
  by_cases hignored : m.context.Ignores m.text
  · rw [respond_of_ignores hignored]
    exact .same
  · cases hroute : route m.context.settings.commandPrefix m.context.registry m.text with
    | chat =>
        rw [respond_of_chat hignored hroute]
        exact .same
    | unknown verb quiet =>
        rw [respond_of_unknown hignored hroute]
        exact .same
    | command command args =>
        have hperson : m.context.author.bot = false :=
          Bool.eq_false_iff.2 fun h => hignored (.inr h)
        -- What follows the counting leaves the store as the counting left it.
        have hrest : ((command.execute args m.context).bind fun result =>
            (.done (replyOf result).nonempty? : Program Request.Answer _)).Asks
              Request.LeavesStore :=
          (Command.execute_leavesStore command args m.context).bind fun _ => .done _
        have hkeep : ∀ q : Request, q.LeavesStore → ∀ s : (Store × Faults) × σ,
            storeOf (Request.beside Store.answerOrFail outside q s).2 = storeOf s :=
          Request.store_beside_of_leavesStore _ outside Prod.fst Store.answerOrFail_getAll
        rw [respond_of_command hignored hroute, respondCommand, run_bind]
        dsimp only
        rw [hrest.view_run hkeep]
        refine (countAuthor_advances outside m.context ((s.1, m.faults), s.2)).mono ?_ ?_
        · rintro _ rfl
          exact hperson
        · rintro r _ rfl
          exact ⟨_, _, rfl⟩

/-- The records that messages leave: those of people with at least one command. -/
def IsPoster (bot : Bool) (posts : UInt64) : Prop := bot = false ∧ 1 ≤ posts.toNat

theorem Received.isWhole_after (m : Received) {s : Store × σ} (hs : s.1.IsWhole IsPoster) :
    (m.after outside s).1.IsWhole IsPoster := by
  refine hs.advances (m.advances outside s) ?_ ?_
  · intro user hperson
    exact ⟨hperson, by decide⟩
  · rintro r _ ⟨user, now, rfl⟩ ⟨hbot, -⟩
    have hnext : 1 ≤ (Users.nextCount r.posts).toNat := by
      rw [Users.toNat_nextCount]
      exact Nat.le_min.2 ⟨Nat.le_add_left 1 _, by decide⟩
    exact ⟨hbot, hnext⟩

theorem isWhole_afterReceived (messages : List Received) {s : Store × σ}
    (hs : s.1.IsWhole IsPoster) : (afterReceived outside messages s).1.IsWhole IsPoster := by
  induction messages generalizing s with
  | nil => exact hs
  | cons m rest ih => exact ih (m.isWhole_after outside hs)

/-- **Neither operations nor messages break a record.**  Whatever operations are made on an empty
store, with whatever failures, every hash has the four fields of a record and no others, and no
record is unreadable.  If only messages are answered, the records are those of people with at least
one command. -/
theorem records_stay_whole (calls : List (Users.Call × Faults)) (messages : List Received)
    (start : σ) :
    (Users.afterCalls calls Table.empty).IsSound (fun _ _ => True) ∧
      (afterReceived outside messages (Table.empty, start)).1.IsSound
        fun bot posts => bot = false ∧ 1 ≤ posts.toNat :=
  ⟨(Users.isWhole_afterCalls (Store.isWhole_empty _) calls).isSound,
    (isWhole_afterReceived outside messages (Store.isWhole_empty _)).isSound⟩

end Messages

/-- A record whose third count fails, and which then loses its name. -/
example : (Users.afterCalls
    [(.recordPost .epoch ⟨7, "ann", false⟩, []), (.recordPost .epoch ⟨7, "ann", false⟩, []),
      (.recordPost .epoch ⟨7, "anna", false⟩, [none, none, some "closed"]),
      (.set 7 { UserUpdate.unchanged with username := some "" }, [])] Table.empty).get? "user:7" =
    some ⟨[("username", ""), ("isBot", "0"), ("posts", "2"),
      ("lastSeen", Timestamp.epoch.text)]⟩ := by rfl

end CommandBot
