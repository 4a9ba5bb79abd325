/-
**How an event is handled, exchange by exchange.**

An event that is not passed over goes through up to three stages: its channel may be looked up, the
message is answered, and the answer may be sent.  If the message is a command, answering it is
counting it and executing it.

Main definitions:

* `CommandBot.Exchange` — a question of a handling with its answer;
* `CommandBot.Arrival` — an event with the moment and the draw of its handling;
* `CommandBot.Instance.handleAll` — the handling of one event after another.

Main results:

* `CommandBot.Instance.runs_handleAll` — **what is exchanged about each event**;
* `CommandBot.Instance.runs_handle`, `CommandBot.Instance.runs_answer` — the stages of a handling.
-/

import CommandBot.Bot.Commands
import CommandBot.Gateway.Handle
import CommandBot.Proofs.Bot.Requests
import Mathlib.Data.List.Forall2

set_option relaxedAutoImplicit false
set_option autoImplicit false

namespace CommandBot

open Program

/-- A question of a handling with its answer. -/
abbrev Exchange : Type := (q : GatewayRequest) × q.Answer

/-! ### One event after another -/

/-- An event with the moment and the draw of its handling. -/
structure Arrival where
  event : Event
  now : Timestamp
  draw : Nat
deriving DecidableEq, Repr

namespace Instance

/-- The handling of one event after another. -/
def handleAll (b : Instance) : List Arrival → GatewayTask Unit
  | [] => .done ()
  | a :: rest => (b.handle a.event a.now a.draw).bind fun _ => b.handleAll rest

/-- **What is exchanged about each event**, one after another, is all that is exchanged. -/
theorem runs_handleAll {b : Instance} {arrivals : List Arrival} {exchanges : List Exchange}
    (h : Runs (b.handleAll arrivals) exchanges ()) :
    ∃ parts, exchanges = parts.flatten ∧
      List.Forall₂ (fun a part => Runs (b.handle a.event a.now a.draw) part ()) arrivals parts := by
  induction arrivals generalizing exchanges with
  | nil =>
      obtain ⟨rfl, -⟩ := runs_done_iff.1 h
      exact ⟨[], rfl, .nil⟩
  | cons a rest ih =>
      obtain ⟨_, part, others, rfl, hpart, hothers⟩ := runs_bind_iff.1 h
      obtain ⟨parts, rfl, hparts⟩ := ih hothers
      exact ⟨part :: parts, rfl, .cons hpart hparts⟩

/-! ### The stages of a handling -/

variable {b : Instance} {e : Event} {now : Timestamp} {draw : Nat} {exchanges : List Exchange}

/-- A handling is nothing, or a look at the channel, an answer and its sending. -/
theorem runs_handle (h : Runs (b.handle e now draw) exchanges ()) :
    exchanges = [] ∨ e.isIgnored = false ∧ ∃ nsfw reply first middle last,
      exchanges = first ++ (middle ++ last) ∧ Runs (b.channelIsNsfw e) first nsfw ∧
        Runs (b.answer e nsfw now draw) middle reply ∧
          Runs (sendAnswer e.channel reply) last () := by
  unfold handle at h
  split at h
  · exact .inl (runs_done_iff.1 h).1
  · next hignored =>
      obtain ⟨nsfw, first, others, rfl, hfirst, hothers⟩ := runs_bind_iff.1 h
      obtain ⟨reply, middle, last, rfl, hmiddle, hlast⟩ := runs_bind_iff.1 hothers
      exact .inr ⟨by simpa using hignored, nsfw, reply, first, middle, last, rfl, hfirst, hmiddle,
        hlast⟩

/-- An answer takes no exchange unless the message is a command; then it is counted and
executed. -/
theorem runs_answer {nsfw : Bool} {reply : Option Reply}
    (h : Runs (b.answer e nsfw now draw) exchanges reply) :
    exchanges = [] ∨ ∃ command args result counting executing,
      route b.settings.commandPrefix b.registry e.text = .command command args ∧
        exchanges = counting ++ executing ∧
        Runs ((countAuthor (b.context e nsfw now draw)).translate e.requestFor) counting () ∧
        Runs ((command.execute args (b.context e nsfw now draw)).translate e.requestFor)
          executing result ∧ reply = (replyOf result).nonempty? := by
  unfold answer respond at h
  split at h
  · exact .inl (runs_done_iff.1 h).1
  · split at h
    · split at h
      · exact .inl (runs_done_iff.1 h).1
      · exact .inl (runs_done_iff.1 h).1
    · split at h
      · exact .inl (runs_done_iff.1 h).1
      · exact .inl (runs_done_iff.1 h).1
    · next command args hroute =>
        rw [respondCommand, translate_bind] at h
        obtain ⟨_, counting, others, rfl, hcounting, hothers⟩ := runs_bind_iff.1 h
        rw [translate_bind] at hothers
        obtain ⟨result, executing, none', rfl, hexecuting, hdone⟩ := runs_bind_iff.1 hothers
        obtain ⟨rfl, rfl⟩ := runs_done_iff.1 hdone
        rw [List.append_nil]
        exact .inr ⟨command, args, result, counting, executing, hroute, rfl, hcounting, hexecuting,
          rfl⟩

/-- Looking at the channel asks about the channel. -/
theorem channelIsNsfw_asks (b : Instance) (e : Event) :
    (b.channelIsNsfw e).Asks (· = .channel e.channel) := by
  unfold channelIsNsfw
  split
  · refine .ask rfl fun answer => ?_
    cases answer with
    | error reason => exact .done _
    | ok kind => exact .done _
  · exact .done _

/-- Sending an answer is sending to the channel. -/
theorem sendAnswer_asks (channel : UInt64) (reply : Option Reply) :
    (sendAnswer channel reply).Asks fun q => ∃ r, q = .send channel r := by
  cases reply with
  | none => exact .done _
  | some r =>
      simp only [sendAnswer, send]
      split
      · exact .ask ⟨r, rfl⟩ fun _ => .done _
      · exact .done _

/-- The bot with its own commands and without a store. -/
def plain : Instance where
  settings := ⟨"token", Settings.defaultPrefix, false, false, none, none, none, "assets"⟩
  registry := Registry.builtin
  hasStore := false

end Instance

end CommandBot
