/-
**What a chat service hears of an event.**

A rehearsed chat service keeps what reached it.  About an event it hears of the channel of the
event, of its author and of its server, and of no other; and it is given one reply at most, the one
that the message is answered with, for the channel of the event.  If it cannot be reached, it hears
nothing.

Main definitions:

* `CommandBot.GatewayRequest.lookup?`, `CommandBot.GatewayRequest.sending?` — what a question lets
  the chat service hear;
* `CommandBot.Event.Concerns` — the lookups that an event can be a reason for;
* `CommandBot.Rehearsal.Platform.Heard` — what can be heard of an event.

Main results:

* `CommandBot.Rehearsal.Platform.run_of_reachable` — **what is kept is what was asked**;
* `CommandBot.Instance.handle_concerns` — the handling of an event asks about the event;
* `CommandBot.Rehearsal.Platform.sent_step` — the reply that is sent is the answer to the message;
* `CommandBot.Rehearsal.Platform.steps_heard` — **of each event no more is heard.**
-/

import CommandBot.Proofs.Gateway.ChannelLookup
import CommandBot.Rehearsal.ChatService

set_option relaxedAutoImplicit false
set_option autoImplicit false

namespace CommandBot

open Program

/-! ### Questions -/

/-- The lookup that a question is. -/
def GatewayRequest.lookup? : GatewayRequest → Option Rehearsal.Lookup
  | .channel id => some (.channel id)
  | .member guild user => some (.member guild user)
  | .roles guild => some (.roles guild)
  | _ => none

/-- The reply that a question hands over, with the channel it is for. -/
def GatewayRequest.sending? : GatewayRequest → Option (UInt64 × Reply)
  | .send id reply => some (id, reply)
  | _ => none

/-- The lookups among what was exchanged. -/
def lookedUpOf (exchanges : List Exchange) : List Rehearsal.Lookup :=
  exchanges.filterMap fun x => x.1.lookup?

/-- The replies among what was exchanged. -/
def sentOf (exchanges : List Exchange) : List (UInt64 × Reply) :=
  exchanges.filterMap fun x => x.1.sending?

theorem sentOf_append (first second : List Exchange) :
    sentOf (first ++ second) = sentOf first ++ sentOf second := List.filterMap_append

/-- Nothing is sent while a message is answered, nor while its channel is looked up. -/
theorem sentOf_eq_nil {exchanges : List Exchange} (h : ∀ x ∈ exchanges, x.1.sending? = none) :
    sentOf exchanges = [] := List.filterMap_eq_nil_iff.2 h

theorem GatewayRequest.IsAnswering.sending? {q : GatewayRequest} (h : q.IsAnswering) :
    q.sending? = none := by
  cases q with
  | send channel reply => exact h.elim
  | service s => rfl
  | channel id => rfl
  | member guild user => rfl
  | roles guild => rfl
  | voiceOf guild user => rfl

theorem Sent.sentOf {channel : UInt64} {reply : Option Reply} {exchanges : List Exchange}
    (h : Sent channel reply exchanges) :
    sentOf exchanges = (reply.filter Reply.isSendable).toList.map (Prod.mk channel) := by
  cases h with
  | none => rfl
  | tooLong h => simp [CommandBot.sentOf, Option.filter, h]
  | once h outcome => simp [CommandBot.sentOf, Option.filter, h, GatewayRequest.sending?]

/-! ### Events -/

/-- The lookups that an event can be a reason for. -/
inductive Event.Concerns (e : Event) : Rehearsal.Lookup → Prop where
  | channel : Concerns e (.channel e.channel)
  | member {guild : UInt64} (h : e.guild = some guild) : Concerns e (.member guild e.author.id)
  | roles {guild : UInt64} (h : e.guild = some guild) : Concerns e (.roles guild)

/-- A question whose lookup is about an event. -/
def Event.Permits (e : Event) (q : GatewayRequest) : Prop :=
  ∀ lookup ∈ q.lookup?, e.Concerns lookup

theorem Event.Permits.of_lookup? {e : Event} {q : GatewayRequest} (h : q.lookup? = none) :
    e.Permits q := by
  intro lookup hmem
  rw [h] at hmem
  cases hmem

theorem Event.Permits.of_concerns {e : Event} {q : GatewayRequest} {lookup : Rehearsal.Lookup}
    (h : q.lookup? = some lookup) (hlookup : e.Concerns lookup) : e.Permits q := by
  intro found hmem
  rw [h] at hmem
  cases hmem
  exact hlookup

/-- Every question of an answer is put to the chat service as one about the event. -/
theorem Event.requestFor_permits (e : Event) (r : Request) : (e.requestFor r).Asks e.Permits := by
  cases r with
  | service s => exact .ask (.of_lookup? rfl) fun _ => .done _
  | authorIsAdmin =>
      simp only [requestFor, authorIsAdmin]
      split
      · exact .done _
      · next guild hguild =>
          refine .ask (.of_concerns rfl (.member hguild)) fun member => ?_
          cases member with
          | error reason => exact .done _
          | ok roles =>
              refine .ask (.of_concerns rfl (.roles hguild)) fun found => ?_
              cases found with
              | error reason => exact .done _
              | ok table => exact .done _
  | authorVoice =>
      simp only [requestFor, authorVoice]
      split
      · exact .done _
      · exact .ask (.of_lookup? rfl) fun _ => .done _

/-- **The handling of an event asks about the event.** -/
theorem Instance.handle_concerns (b : Instance) (e : Event) (now : Timestamp) (draw : Nat) :
    (b.handle e now draw).Asks e.Permits := by
  unfold handle
  split
  · exact .done _
  · refine ((b.channelIsNsfw_asks e).mono fun q hq => ?_).bind fun nsfw => ?_
    · rw [hq]
      exact .of_concerns rfl .channel
    · refine ((Asks.trivial _).translate fun r _ => e.requestFor_permits r).bind fun reply => ?_
      refine (sendAnswer_asks e.channel reply).mono fun q hq => ?_
      obtain ⟨r, rfl⟩ := hq
      exact .of_lookup? rfl

namespace Rehearsal.Platform

/-! ### Records -/

section Records

variable {α : Type} {p : Platform}

theorem answer_of_reachable (h : p.reachable = true) (q : GatewayRequest) :
    (answer q p).2.reachable = true ∧ (answer q p).2.lookups = p.lookups ++ q.lookup?.toList ∧
      (answer q p).2.sent = p.sent ++ q.sending?.toList := by
  cases q with
  | service s => exact ⟨h, (List.append_nil _).symm, (List.append_nil _).symm⟩
  | voiceOf guild user => exact ⟨h, (List.append_nil _).symm, (List.append_nil _).symm⟩
  | channel id =>
      rw [answer, lookUp, if_pos h]
      exact ⟨h, rfl, (List.append_nil _).symm⟩
  | member guild user =>
      rw [answer, lookUp, if_pos h]
      exact ⟨h, rfl, (List.append_nil _).symm⟩
  | roles guild =>
      rw [answer, lookUp, if_pos h]
      exact ⟨h, rfl, (List.append_nil _).symm⟩
  | send channel reply =>
      rw [answer, deliver, if_pos h]
      exact ⟨h, (List.append_nil _).symm, rfl⟩

/-- **What is kept is what was asked**, if the chat service can be reached. -/
theorem run_of_reachable (task : GatewayTask α) (h : p.reachable = true) :
    (task.run answer p).2.lookups = p.lookups ++ lookedUpOf (task.transcript answer p) ∧
      (task.run answer p).2.sent = p.sent ++ sentOf (task.transcript answer p) := by
  induction task generalizing p with
  | done a => exact ⟨(List.append_nil _).symm, (List.append_nil _).symm⟩
  | ask q next ih =>
      obtain ⟨hreachable, hlookups, hsent⟩ := answer_of_reachable h q
      obtain ⟨hrest, hrest'⟩ := ih (answer q p).1 hreachable
      rw [run_ask, transcript_ask, hrest, hrest', hlookups, hsent, List.append_assoc,
        List.append_assoc, lookedUpOf, sentOf, lookedUpOf, sentOf, List.filterMap_cons,
        List.filterMap_cons]
      constructor
      · cases q.lookup? with
        | none => rfl
        | some lookup => rfl
      · cases q.sending? with
        | none => rfl
        | some sending => rfl

/-- A chat service that cannot be reached hears nothing. -/
theorem run_of_unreachable (task : GatewayTask α) (h : p.reachable = false) :
    (task.run answer p).2.lookups = p.lookups ∧ (task.run answer p).2.sent = p.sent := by
  have hkeep : ∀ (q : GatewayRequest) (p : Platform), p.reachable = false →
      (answer q p).2.reachable = false ∧ (answer q p).2.lookups = p.lookups ∧
        (answer q p).2.sent = p.sent := by
    intro q p h
    cases q with
    | service s => exact ⟨h, rfl, rfl⟩
    | voiceOf guild user => exact ⟨h, rfl, rfl⟩
    | channel id => simp [answer, lookUp, h]
    | member guild user => simp [answer, lookUp, h]
    | roles guild => simp [answer, lookUp, h]
    | send channel reply => simp [answer, deliver, h]
  induction task generalizing p with
  | done a => exact ⟨rfl, rfl⟩
  | ask q next ih =>
      obtain ⟨hreachable, hlookups, hsent⟩ := hkeep q p h
      obtain ⟨hrest, hrest'⟩ := ih (answer q p).1 hreachable
      rw [run_ask, hrest, hrest', hlookups, hsent]
      exact ⟨rfl, rfl⟩

end Records

/-! ### What is heard of an event -/

/-- **What can be heard of an event**: lookups about it, and one reply at most, for its channel. -/
structure Heard (e : Event) (p : Platform) : Prop where
  lookups : ∀ lookup ∈ p.lookups, e.Concerns lookup
  sent : p.sent = [] ∨ ∃ reply : Reply, reply.isSendable = true ∧ p.sent = [(e.channel, reply)]

variable (b : Instance) (now : Timestamp) (draw : Nat) {e : Event} (chat : ChatAnswers)
  {p : Platform}

/-- **The reply that is sent is the answer to the message**, unless it is too long. -/
theorem sent_step (hreachable : p.reachable = true) (hignored : e.isIgnored = false) :
    ∃ nsfw exchanges reply, Runs ((instanceFor b e).answer e nsfw now draw) exchanges reply ∧
      (step b now draw e chat p).sent =
        (reply.filter Reply.isSendable).toList.map (Prod.mk e.channel) := by
  have hnext : (p.next chat).reachable = true := hreachable
  obtain ⟨-, hsent⟩ := run_of_reachable ((instanceFor b e).handle e now draw) hnext
  have hruns := runs_transcript answer ((instanceFor b e).handle e now draw) (p.next chat)
  unfold Instance.handle at hruns
  rw [hignored] at hruns
  obtain ⟨nsfw, first, others, hall, hfirst, hothers⟩ := runs_bind_iff.1 hruns
  obtain ⟨reply, middle, last, rfl, hmiddle, hlast⟩ := runs_bind_iff.1 hothers
  have hlooked : sentOf first = [] := sentOf_eq_nil fun x hx => by
    rw [((instanceFor b e).channelIsNsfw_asks e).of_runs hfirst x hx]
    rfl
  have hanswered : sentOf middle = [] := sentOf_eq_nil fun x hx =>
    (Instance.isAnswering_of_runs_answer hmiddle x hx).sending?
  refine ⟨nsfw, middle, reply, hmiddle, hsent.trans ?_⟩
  unfold Instance.handle
  rw [hignored]
  refine (congrArg (fun exchanges => (p.next chat).sent ++ sentOf exchanges) hall).trans ?_
  rw [sentOf_append, sentOf_append, hlooked, hanswered,
    (Instance.runs_sendAnswer_iff.1 hlast).sentOf]
  rfl

/-- **Of an event no more is heard.** -/
theorem step_heard (e : Event) (p : Platform) : Heard e (step b now draw e chat p) := by
  cases hreachable : p.reachable with
  | false =>
      obtain ⟨hlookups, hsent⟩ :=
        run_of_unreachable (p := p.next chat) ((instanceFor b e).handle e now draw) hreachable
      exact ⟨fun lookup hmem => absurd (hlookups ▸ hmem) (List.not_mem_nil), .inl hsent⟩
  | true =>
      constructor
      · obtain ⟨hlookups, -⟩ :=
          run_of_reachable (p := p.next chat) ((instanceFor b e).handle e now draw) hreachable
        intro lookup hmem
        rw [step, hlookups] at hmem
        obtain ⟨x, hx, hlookup⟩ := List.mem_filterMap.1 hmem
        have hruns := runs_transcript answer ((instanceFor b e).handle e now draw) (p.next chat)
        exact ((instanceFor b e).handle_concerns e now draw).of_runs hruns x hx lookup hlookup
      · cases hignored : e.isIgnored with
        | true =>
            left
            rw [step, Instance.handle, hignored]
            rfl
        | false =>
            obtain ⟨-, -, reply, -, hsent⟩ := sent_step b now draw chat hreachable hignored
            rw [hsent]
            cases reply with
            | none => exact .inl rfl
            | some reply =>
                cases hsendable : reply.isSendable with
                | false => exact .inl (by simp [Option.filter, hsendable])
                | true => exact .inr ⟨reply, hsendable, by simp [Option.filter, hsendable]⟩

/-- **Of each event no more is heard**, however many are handled. -/
theorem steps_heard (events : List (Event × ChatAnswers)) (p : Platform) :
    List.Forall₂ (fun event heard => Heard event.1 heard) events (steps b now draw events p) := by
  induction events generalizing p with
  | nil => exact .nil
  | cons event rest ih => exact .cons (step_heard b now draw event.2 event.1 p) (ih _)

end Rehearsal.Platform

end CommandBot
