/-
**Looking up the channel only if it matters.**

Whether anything may be shown in a channel matters to the search only, so the channel is looked up
for a message that begins with the prefix and for no other.  This is a shortcut: an event is handled
as it would be if the kind of its channel were always known.  Where the lookup is left out, the
message is passed over or it is plain chat, and then the answer is the same in all channels.

Main definitions:

* `CommandBot.Instance.answerAndSend` — the handling of an event in a channel of a known kind;
* `CommandBot.Instance.Looked` — the lookup that is made for an event, if one is;
* `CommandBot.Sent` — what is sent of an answer;
* `CommandBot.delivered` — the messages that are sent, as the chat service gets them.

Main results:

* `CommandBot.Instance.handle_of_unlooked`, `CommandBot.Instance.handle_of_looked` — without a
  lookup any kind of channel will do, and with one the channel has the kind that was found;
* `CommandBot.Instance.runs_handle_iff` — **the handling of an event is a lookup, where one is made,
  and what it would be in a channel of a known kind.**
-/

import CommandBot.Proofs.Bot.Answering
import CommandBot.Proofs.Gateway.Handling

set_option relaxedAutoImplicit false
set_option autoImplicit false

namespace CommandBot

open Program

/-! ### Messages to the chat service -/

/-- A message as the chat service gets it: its channel, its document and its files. -/
abbrev Delivery : Type := UInt64 × Payload × List Attachment

/-- A reply as the chat service gets it. -/
def Reply.delivery (channel : UInt64) (r : Reply) : Delivery := (channel, r.payload, r.files)

/-- The message that an exchange sends, if it sends one. -/
def Exchange.delivery? : Exchange → Option Delivery
  | ⟨.send channel r, _⟩ => some (r.delivery channel)
  | _ => none

/-- The messages that are sent. -/
def delivered (exchanges : List Exchange) : List Delivery := exchanges.filterMap Exchange.delivery?

/-- **What is sent of an answer**: nothing if there is none or if it is too long, and otherwise one
message. -/
inductive Sent (channel : UInt64) : Option Reply → List Exchange → Prop where
  | none : Sent channel none []
  | tooLong {r : Reply} (h : r.isSendable = false) : Sent channel (some r) []
  | once {r : Reply} (h : r.isSendable = true) (outcome : Except String Unit) :
      Sent channel (some r) [⟨.send channel r, outcome⟩]

/-- A question that is asked while a message is answered: no lookup of a channel, and nothing to be
sent. -/
def GatewayRequest.IsAnswering : GatewayRequest → Prop
  | .channel _ => False
  | .send _ _ => False
  | _ => True

theorem delivered_of_isAnswering {exchanges : List Exchange}
    (h : ∀ x ∈ exchanges, x.1.IsAnswering) : delivered exchanges = [] := by
  rw [delivered, List.filterMap_eq_nil_iff]
  intro x hx
  match x, h x hx with
  | ⟨.service _, _⟩, _ => rfl
  | ⟨.member _ _, _⟩, _ => rfl
  | ⟨.roles _, _⟩, _ => rfl
  | ⟨.voiceOf _ _, _⟩, _ => rfl

/-- An answer is sent as one message, if there is an answer and it is not too long. -/
theorem Sent.delivered {channel : UInt64} {reply : Option Reply} {sending : List Exchange}
    (h : Sent channel reply sending) :
    delivered sending = (reply.filter Reply.isSendable).toList.map (Reply.delivery channel) := by
  cases h with
  | none => rfl
  | tooLong h => simp [CommandBot.delivered, Option.filter, h]
  | once h outcome => simp [CommandBot.delivered, Option.filter, h, Exchange.delivery?]

theorem Sent.not_lookup {channel : UInt64} {reply : Option Reply} {sending : List Exchange}
    (h : Sent channel reply sending) (id : UInt64) (answer : Except String ChannelKind) :
    ⟨.channel id, answer⟩ ∉ sending := by
  cases h with
  | none => simp
  | tooLong h => simp
  | once h outcome =>
      rw [List.mem_singleton]
      rintro ⟨⟩

theorem Event.isIgnored_iff {e : Event} :
    e.isIgnored = true ↔ e.text = "" ∨ e.author.bot = true := by
  simp [isIgnored]

/-- The questions of an answer, put to the chat service, are such questions. -/
theorem Event.requestFor_isAnswering (e : Event) (r : Request) :
    (e.requestFor r).Asks GatewayRequest.IsAnswering := by
  cases r with
  | service s => exact .ask trivial fun _ => .done _
  | authorIsAdmin =>
      simp only [requestFor, authorIsAdmin]
      split
      · exact .done _
      · refine .ask trivial fun member => ?_
        cases member with
        | error reason => exact .done _
        | ok roles =>
            refine .ask trivial fun found => ?_
            cases found with
            | error reason => exact .done _
            | ok table => exact .done _
  | authorVoice =>
      simp only [requestFor, authorVoice]
      split
      · exact .done _
      · exact .ask trivial fun _ => .done _

/-- A channel in which anything may be shown is a channel of a server that says so. -/
def allowsAnything : Except String ChannelKind → Bool
  | .ok kind => kind.isNsfw
  | .error _ => false

theorem allowsAnything_iff {found : Except String ChannelKind} :
    allowsAnything found = true ↔ found = .ok (.ofServer true) := by
  match found with
  | .error _ => simp [allowsAnything]
  | .ok .other => simp [allowsAnything, ChannelKind.isNsfw]
  | .ok (.ofServer nsfw) => simp [allowsAnything, ChannelKind.isNsfw]

namespace Instance

variable {b : Instance} {e : Event} {now : Timestamp} {draw : Nat} {exchanges : List Exchange}

/-! ### The shortcut -/

/-- **The handling of an event in a channel of a known kind.** -/
def answerAndSend (b : Instance) (e : Event) (nsfw : Bool) (now : Timestamp) (draw : Nat) :
    GatewayTask Unit :=
  (b.answer e nsfw now draw).bind (sendAnswer e.channel)

theorem isAddressed_iff :
    b.isAddressed e = true ↔ ∃ rest, e.text = b.settings.commandPrefix ++ rest :=
  isPrefixOf_toList_iff

/-- **Plain chat is answered alike in all channels.** -/
theorem answer_of_not_isAddressed (hignored : e.isIgnored = false)
    (haddressed : b.isAddressed e = false) (nsfw nsfw' : Bool) :
    b.answer e nsfw now draw = b.answer e nsfw' now draw := by
  have hnot : ∀ nsfw, ¬ (b.context e nsfw now draw).Ignores e.text := by
    intro nsfw h
    rw [Event.isIgnored_iff.2 h] at hignored
    cases hignored
  have hchat : route b.settings.commandPrefix b.registry e.text = .chat := by
    have hparse : Invocation.parse? b.settings.commandPrefix e.text = none := by
      refine Invocation.parse?_eq_none_iff.2 (.inr fun h => ?_)
      rw [isAddressed_iff.2 h] at haddressed
      cases haddressed
    rw [route, hparse]
  rw [answer, answer, respond_of_chat (hnot nsfw) hchat, respond_of_chat (hnot nsfw') hchat]
  rfl

/-- **Without a lookup an event is handled as in a channel of any kind.** -/
theorem handle_of_unlooked (h : e.isIgnored = true ∨ b.isAddressed e = false) (nsfw : Bool) :
    b.handle e now draw = b.answerAndSend e nsfw now draw := by
  cases hignored : e.isIgnored with
  | true =>
      have hignores : (b.context e nsfw now draw).Ignores e.text := Event.isIgnored_iff.1 hignored
      rw [handle, hignored, answerAndSend, answer, respond_of_ignores hignores]
      rfl
  | false =>
      have haddressed : b.isAddressed e = false := by
        rcases h with h | h
        · rw [hignored] at h
          cases h
        · exact h
      rw [handle, hignored, channelIsNsfw, haddressed, answerAndSend,
        answer_of_not_isAddressed hignored haddressed nsfw false]
      rfl

/-- **With a lookup it is handled as in a channel of the kind that was found.** -/
theorem handle_of_looked (hignored : e.isIgnored = false) (haddressed : b.isAddressed e = true) :
    b.handle e now draw =
      .ask (.channel e.channel) fun found =>
        b.answerAndSend e (allowsAnything found) now draw := by
  rw [handle, hignored, channelIsNsfw, haddressed]
  refine congrArg (Program.ask _) (funext fun found => ?_)
  cases found with
  | error reason => rfl
  | ok kind => rfl

/-! ### Exchanges -/

theorem runs_sendAnswer_iff {channel : UInt64} {reply : Option Reply} :
    Runs (sendAnswer channel reply) exchanges () ↔ Sent channel reply exchanges := by
  cases reply with
  | none =>
      rw [sendAnswer, runs_done_iff]
      constructor
      · rintro ⟨rfl, -⟩
        exact .none
      · rintro ⟨⟩
        exact ⟨rfl, rfl⟩
  | some r =>
      rw [sendAnswer, send]
      split
      · next hsendable =>
          rw [runs_ask_iff]
          constructor
          · rintro ⟨outcome, rest, rfl, hrest⟩
            obtain ⟨rfl, -⟩ := runs_done_iff.1 hrest
            exact .once hsendable outcome
          · rintro (_ | hlong | ⟨_, outcome⟩)
            · rw [hsendable] at hlong
              cases hlong
            · exact ⟨outcome, [], rfl, .done ()⟩
      · next hlong =>
          rw [runs_done_iff]
          constructor
          · rintro ⟨rfl, -⟩
            exact .tooLong (by simpa using hlong)
          · rintro (_ | _ | ⟨hsendable, _⟩)
            · exact ⟨rfl, rfl⟩
            · exact absurd hsendable hlong

/-- Answering a message looks up no channel and sends nothing. -/
theorem isAnswering_of_runs_answer {nsfw : Bool} {reply : Option Reply}
    (h : Runs (b.answer e nsfw now draw) exchanges reply) : ∀ x ∈ exchanges, x.1.IsAnswering :=
  ((Asks.trivial _).translate fun r _ => e.requestFor_isAnswering r).of_runs h

theorem runs_answerAndSend_iff {nsfw : Bool} :
    Runs (b.answerAndSend e nsfw now draw) exchanges () ↔
      ∃ reply answering sending, exchanges = answering ++ sending ∧
        Runs (b.answer e nsfw now draw) answering reply ∧ Sent e.channel reply sending := by
  simp only [answerAndSend, runs_bind_iff, runs_sendAnswer_iff]

theorem not_lookup_of_runs_answerAndSend {nsfw : Bool}
    (h : Runs (b.answerAndSend e nsfw now draw) exchanges ()) (id : UInt64)
    (answer : Except String ChannelKind) : ⟨.channel id, answer⟩ ∉ exchanges := by
  obtain ⟨reply, answering, sending, rfl, hanswer, hsent⟩ := runs_answerAndSend_iff.1 h
  rw [List.mem_append, not_or]
  exact ⟨fun hmem => isAnswering_of_runs_answer hanswer _ hmem, hsent.not_lookup id answer⟩

/-- **The lookup that is made for an event**, with its answer.  None is made for a message that is
empty, is by a program or does not begin with the prefix. -/
inductive Looked (b : Instance) (e : Event) (found : Except String ChannelKind) :
    List Exchange → Prop where
  | never (h : e.text = "" ∨ e.author.bot = true ∨
      ¬ ∃ rest, e.text = b.settings.commandPrefix ++ rest) : Looked b e found []
  | once (htext : e.text ≠ "") (hperson : e.author.bot = false)
      (hbegins : ∃ rest, e.text = b.settings.commandPrefix ++ rest) :
      Looked b e found [⟨.channel e.channel, found⟩]

theorem looked_iff_of_unlooked {found : Except String ChannelKind} {looked : List Exchange}
    (h : e.isIgnored = true ∨ b.isAddressed e = false) : b.Looked e found looked ↔ looked = [] := by
  constructor
  · rintro (_ | ⟨htext, hperson, hbegins⟩)
    · rfl
    · rcases h with h | h
      · rcases Event.isIgnored_iff.1 h with hempty | hbot
        · exact absurd hempty htext
        · rw [hperson] at hbot
          cases hbot
      · rw [isAddressed_iff.2 hbegins] at h
        cases h
  · rintro rfl
    rcases h with h | h
    · exact .never ((Event.isIgnored_iff.1 h).imp_right .inl)
    · refine .never (.inr (.inr fun hbegins => ?_))
      rw [isAddressed_iff.2 hbegins] at h
      cases h

theorem looked_iff_of_looked {found : Except String ChannelKind} {looked : List Exchange}
    (hignored : e.isIgnored = false) (haddressed : b.isAddressed e = true) :
    b.Looked e found looked ↔ looked = [⟨.channel e.channel, found⟩] := by
  have hnot : ¬ (e.text = "" ∨ e.author.bot = true) := by
    rw [← Event.isIgnored_iff, hignored]
    exact Bool.false_ne_true
  rw [not_or, Bool.not_eq_true] at hnot
  constructor
  · rintro (hnever | _)
    · rcases hnever with h | h | h
      · exact absurd h hnot.1
      · rw [hnot.2] at h
        cases h
      · exact absurd (isAddressed_iff.1 haddressed) h
    · rfl
  · rintro rfl
    exact .once hnot.1 hnot.2 (isAddressed_iff.1 haddressed)

/-- **The handling of an event is a lookup, where one is made, and what it is in a channel of the
kind that is found.** -/
theorem runs_handle_iff_looked {found : Except String ChannelKind} :
    (Runs (b.handle e now draw) exchanges () ∧
        ∀ answer, ⟨.channel e.channel, answer⟩ ∈ exchanges → answer = found) ↔
      ∃ looked rest, exchanges = looked ++ rest ∧ b.Looked e found looked ∧
        Runs (b.answerAndSend e (allowsAnything found) now draw) rest () := by
  by_cases hlooked : e.isIgnored = false ∧ b.isAddressed e = true
  · obtain ⟨hignored, haddressed⟩ := hlooked
    simp only [handle_of_looked hignored haddressed, runs_ask_iff,
      looked_iff_of_looked hignored haddressed]
    constructor
    · rintro ⟨⟨answer, rest, rfl, hrest⟩, hfound⟩
      obtain rfl := hfound answer List.mem_cons_self
      exact ⟨_, rest, rfl, rfl, hrest⟩
    · rintro ⟨_, rest, rfl, rfl, hrest⟩
      refine ⟨⟨found, rest, rfl, hrest⟩, fun answer hmem => ?_⟩
      rcases List.mem_cons.1 hmem with hsame | hmem
      · cases hsame
        rfl
      · exact absurd hmem (not_lookup_of_runs_answerAndSend hrest _ answer)
  · have hunlooked : e.isIgnored = true ∨ b.isAddressed e = false := by
      rwa [not_and_or, Bool.not_eq_false, Bool.not_eq_true] at hlooked
    simp only [handle_of_unlooked hunlooked (allowsAnything found),
      looked_iff_of_unlooked hunlooked]
    constructor
    · rintro ⟨hrest, -⟩
      exact ⟨[], exchanges, rfl, rfl, hrest⟩
    · rintro ⟨_, rest, rfl, rfl, hrest⟩
      refine ⟨hrest, fun answer hmem => ?_⟩
      exact absurd hmem (not_lookup_of_runs_answerAndSend hrest _ answer)

/-- **An event is handled as in a channel of a known kind.**  Let the lookup of the channel give
what it may.  What can be exchanged about the event is the lookup, where it is made, then what is
exchanged while the message is answered in a channel of that kind, and then at most one message to
the channel, which is that answer. -/
theorem runs_handle_iff {found : Except String ChannelKind} {nsfw : Bool}
    (hnsfw : nsfw = true ↔ found = .ok (.ofServer true)) :
    (Runs (b.handle e now draw) exchanges () ∧
        ∀ answer, ⟨.channel e.channel, answer⟩ ∈ exchanges → answer = found) ↔
      ∃ reply looked answering sending, exchanges = looked ++ (answering ++ sending) ∧
        b.Looked e found looked ∧
        Runs ((respond (b.context e nsfw now draw) e.text).translate e.requestFor) answering reply ∧
        (∀ x ∈ answering, x.1.IsAnswering) ∧ Sent e.channel reply sending ∧
        delivered exchanges =
          (reply.filter Reply.isSendable).toList.map (Reply.delivery e.channel) := by
  obtain rfl : nsfw = allowsAnything found := by
    rw [Bool.eq_iff_iff, hnsfw, allowsAnything_iff]
  simp only [runs_handle_iff_looked, runs_answerAndSend_iff]
  constructor
  · rintro ⟨looked, _, rfl, hlooked, reply, answering, sending, rfl, hanswer, hsent⟩
    have hanswering := isAnswering_of_runs_answer hanswer
    refine ⟨reply, looked, answering, sending, rfl, hlooked, hanswer, hanswering, hsent, ?_⟩
    have hnone : delivered looked = [] := by
      cases hlooked with
      | never h => rfl
      | once htext hperson hbegins => rfl
    rw [delivered, List.filterMap_append, List.filterMap_append, ← delivered, ← delivered,
      ← delivered, hnone, delivered_of_isAnswering hanswering, hsent.delivered]
    rfl
  · rintro ⟨reply, looked, answering, sending, rfl, hlooked, hanswer, -, hsent, -⟩
    exact ⟨looked, _, rfl, hlooked, reply, answering, sending, rfl, hanswer, hsent⟩

/-! ### A search -/

/-- A message that asks for an image. -/
def searchEvent : Event := ⟨".db pony", ⟨7, "ann", false⟩, [], 1, some 9⟩

/-- What is exchanged about it if anything may be shown in its channel, and there is no image
board. -/
def searchExchanges : List Exchange :=
  [⟨.channel 1, .ok (.ofServer true)⟩,
    ⟨.service (.search "pony"), .error BoardError.unreachable⟩,
    ⟨.send 1 (CommandError.board .unreachable).reply, .ok ()⟩]

theorem runs_handle_iff_search :
    Runs (plain.handle searchEvent .epoch 0) searchExchanges () ∧
      ∃ reply looked answering sending, searchExchanges = looked ++ (answering ++ sending) ∧
        plain.Looked searchEvent (.ok (.ofServer true)) looked ∧
        Runs ((respond (plain.context searchEvent true .epoch 0) ".db pony").translate
          searchEvent.requestFor) answering reply ∧
        (∀ x ∈ answering, x.1.IsAnswering) ∧ Sent 1 reply sending ∧
        delivered searchExchanges =
          (reply.filter Reply.isSendable).toList.map (Reply.delivery 1) := by
  have hruns : Runs (plain.handle searchEvent .epoch 0) searchExchanges () :=
    .ask _ (.ask _ (.ask _ (.done ())))
  refine ⟨hruns, (runs_handle_iff (iff_of_true rfl rfl)).1 ⟨hruns, fun answer hmem => ?_⟩⟩
  -- Of the three exchanges the first is the only lookup.
  simp only [searchExchanges, List.mem_cons, List.not_mem_nil, or_false] at hmem
  rcases hmem with hsame | hsame | hsame
  · cases hsame
    rfl
  · cases hsame
  · cases hsame

end Instance

end CommandBot
