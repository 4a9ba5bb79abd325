/-
**Any store will do.**

A message is counted before its command is executed, and nothing depends on how the counting went.
So nobody but the store can tell whether there is a store, what it holds and which of its requests
fail: the reply is the same, and so is all that is asked of the image board, the host, the files and
the chat service.  The one exception is the command that shows a record.

Main definitions:

* `CommandBot.Sight` — what is seen of a program by others than the store.

Main results:

* `CommandBot.sight_of_offStore`, `CommandBot.sight_bind_of_onStore` — a program that asks nothing
  of the store is seen as if there were none, also after one that asks nothing else;
* `CommandBot.sight_respond` — **a bot with a store is seen as one without**;
* `CommandBot.sight_respond_congr` — two bots that differ in their stores only are seen as the same.
-/

import CommandBot.Bot.Commands
import CommandBot.Proofs.Bot.Answering
import CommandBot.Proofs.Bot.Conversation
import CommandBot.Proofs.Bot.Requests

set_option relaxedAutoImplicit false
set_option autoImplicit false

namespace CommandBot

open Program

/-! ### What is seen of a program -/

/-- **What is seen of a program by others than the store.** -/
structure Sight (α σ : Type) where
  result : α
  /-- What is exchanged with the surroundings. -/
  exchanges : List ((q : Request) × q.Answer)
  /-- The surroundings afterwards. -/
  after : σ

section Sights

variable {α τ σ : Type} (store : (r : StoreRequest) → τ → r.Answer × τ)
  (outside : (q : Request) → σ → q.Answer × σ)

/-- What is seen of a program that runs beside a store. -/
def sight (p : Program Request.Answer α) (t : τ) (s : σ) : Sight α σ where
  result := (p.run (Request.beside store outside) (t, s)).1
  exchanges := (p.transcript (Request.beside store outside) (t, s)).filter fun x => !x.1.isStore
  after := (p.run (Request.beside store outside) (t, s)).2.2

/-- What is seen of a program that runs without a store. -/
def sightAlone (p : Program Request.Answer α) (s : σ) : Sight α σ where
  result := (p.run outside s).1
  exchanges := p.transcript outside s
  after := (p.run outside s).2

/-- **A program that asks nothing of the store is seen as if there were none.** -/
theorem sight_of_offStore {p : Program Request.Answer α} (hp : p.Asks fun q => q.isStore = false)
    (t : τ) (s : σ) : sight store outside p t s = sightAlone outside p s := by
  induction hp generalizing s with
  | done a => rfl
  | @ask q next first _ ih =>
      have hrest := ih (outside q s).1 (outside q s).2
      simp only [sight, sightAlone, Sight.mk.injEq] at hrest
      obtain ⟨hresult, hexchanges, hafter⟩ := hrest
      simp only [sight, sightAlone, run_ask, transcript_ask,
        Request.beside_of_offStore store outside first, hresult, hafter]
      rw [List.filter_cons_of_pos (by simp [first]), hexchanges]

/-- **Nothing is seen of a program that asks the store only**, but what comes after it. -/
theorem sight_bind_of_onStore {p : Program Request.Answer Unit}
    (hp : p.Asks fun q => q.isStore = true) {rest : Program Request.Answer α}
    (hrest : rest.Asks fun q => q.isStore = false) (t : τ) (s : σ) :
    sight store outside (p.bind fun _ => rest) t s = sightAlone outside rest s := by
  have hafter : (p.run (Request.beside store outside) (t, s)).2.2 = s :=
    hp.view_run (Request.after_beside_of_onStore store outside) (t, s)
  have hnone : (p.transcript (Request.beside store outside) (t, s)).filter
      (fun x => !x.1.isStore) = [] := by
    rw [List.filter_eq_nil_iff]
    intro x hx
    simp [hp.of_runs (runs_transcript _ p (t, s)) x hx]
  rw [← sight_of_offStore store outside hrest (p.run (Request.beside store outside) (t, s)).2.1 s]
  simp only [sight, run_bind, transcript_bind, List.filter_append, hnone, List.nil_append,
    Sight.mk.injEq]
  refine ⟨?_, ?_, ?_⟩
  all_goals rw [← Prod.eta (p.run _ _).2, hafter]

end Sights

/-! ### Messages -/

/-- The picture of the sun does not need a store. -/
theorem Action.showSun_hasStore (ctx : Context) (hasStore : Bool) :
    showSun { ctx with hasStore := hasStore } = showSun ctx := by
  refine congrArg (Program.ask _) (funext fun data => ?_)
  cases data with
  | none => rfl
  | some data => rfl

/-- No other action looks whether there is a store. -/
theorem Action.perform_hasStore {action : Action} (h : action ≠ .posts) (args : List String)
    (ctx : Context) (hasStore : Bool) :
    action.perform args { ctx with hasStore := hasStore } = action.perform args ctx := by
  cases action with
  | posts => exact absurd rfl h
  | ping => rfl
  | help => rfl
  | search => rfl
  | shell => rfl
  | join => rfl
  | leave => rfl
  | sun => exact showSun_hasStore ctx hasStore
  | canned reply => rfl

/-- No other command of the bot does. -/
theorem Command.execute_hasStore {command : Command} (hcommand : command ∈ Command.builtin)
    (h : command.action ≠ .posts) (args : List String) (ctx : Context) (hasStore : Bool) :
    command.execute args { ctx with hasStore := hasStore } = command.execute args ctx := by
  have hneeds : ∀ c ∈ Command.builtin, c.action ≠ .posts → c.needsStore = false := by decide
  rw [Command.execute, Command.execute, hneeds command hcommand h, Action.perform_hasStore h]
  rfl

section Messages

variable {ctx : Context} {message : String} {τ τ' σ : Type}

/-- **A bot with a store is seen as one without**, unless it is asked for a record. -/
theorem sight_respond (hregistry : ctx.registry = Registry.builtin)
    (hroute : ∀ command args,
      route ctx.settings.commandPrefix ctx.registry message = .command command args →
        command.action ≠ .posts)
    (store : (r : StoreRequest) → τ → r.Answer × τ) (outside : (q : Request) → σ → q.Answer × σ)
    (t : τ) (s : σ) :
    sight store outside (respond ctx message) t s =
      sightAlone outside (respond { ctx with hasStore := false } message) s := by
  by_cases hignored : ctx.Ignores message
  · have hignored' : ({ ctx with hasStore := false } : Context).Ignores message := hignored
    rw [respond_of_ignores hignored, respond_of_ignores hignored']
    rfl
  · have hignored' : ¬ ({ ctx with hasStore := false } : Context).Ignores message := hignored
    cases hto : route ctx.settings.commandPrefix ctx.registry message with
    | chat =>
        rw [respond_of_chat hignored hto, respond_of_chat hignored' hto]
        rfl
    | unknown verb quiet =>
        rw [respond_of_unknown hignored hto, respond_of_unknown hignored' hto]
        rfl
    | command command args =>
        have hposts := hroute command args hto
        have hcommand : command ∈ Command.builtin := by
          obtain ⟨verb, -, hverb⟩ := route_eq_command hto
          rw [hregistry] at hverb
          exact (Registry.resolve?_eq_some_iff_mem.1 hverb).1
        rw [respond_of_command hignored hto, respond_of_command hignored' hto, respondCommand,
          respondCommand, Command.execute_hasStore hcommand hposts args ctx false]
        have hcount : (countAuthor ctx).Asks fun q => q.isStore = true :=
          (countAuthor_asks ctx).mono fun _ => Request.isStore_iff.2
        -- The store is asked first, and then nobody asks it.
        exact sight_bind_of_onStore store outside hcount
          ((Command.execute_offStore hposts args ctx).bind fun _ => .done _) t s

/-- **Two bots that differ in their stores only are seen as the same**, unless they are asked for a
record: they give the same reply, and they exchange the same with everyone but the store.  One of
them may have no store; the stores may hold what they like, and any of their requests may fail. -/
theorem sight_respond_congr {ctx' : Context}
    (hctx : ctx' = { ctx with hasStore := ctx'.hasStore })
    (hregistry : ctx.registry = Registry.builtin)
    (hroute : ∀ command args,
      route ctx.settings.commandPrefix ctx.registry message = .command command args →
        command.action ≠ .posts)
    (store : (r : StoreRequest) → τ → r.Answer × τ)
    (store' : (r : StoreRequest) → τ' → r.Answer × τ')
    (outside : (q : Request) → σ → q.Answer × σ) (t : τ) (t' : τ') (s : σ) :
    sight store outside (respond ctx message) t s =
      sight store' outside (respond ctx' message) t' s := by
  have hregistry' : ctx'.registry = Registry.builtin := by
    rw [hctx]
    exact hregistry
  have hroute' : ∀ command args,
      route ctx'.settings.commandPrefix ctx'.registry message = .command command args →
        command.action ≠ .posts := by
    rw [hctx]
    exact hroute
  rw [sight_respond hregistry hroute, sight_respond hregistry' hroute', hctx]

end Messages

/-- What a bot in surroundings in which nothing works knows of a search. -/
def Conversation.lonelySearch : Context :=
  lonely.context { Message.ping 7 "ann" with text := ".db pony" }

/-- A search beside a store without faults, beside one in which every request fails, and beside
none. -/
theorem sight_respond_congr_search :
    (∀ command args, route "." Registry.builtin ".db pony" = .command command args →
      command.action ≠ .posts) ∧
    sight Store.answer Conversation.lonely.outside
        (respond Conversation.lonelySearch ".db pony") Table.empty () =
      sight (fun r (t : Unit) => (r.fail (.backend "closed"), t)) Conversation.lonely.outside
        (respond Conversation.lonelySearch ".db pony") () () ∧
    sight Store.answer Conversation.lonely.outside
        (respond Conversation.lonelySearch ".db pony") Table.empty () =
      sight Store.answer Conversation.lonely.outside
        (respond { Conversation.lonelySearch with hasStore := false } ".db pony") Table.empty () ∧
    (sight Store.answer Conversation.lonely.outside
        (respond Conversation.lonelySearch ".db pony") Table.empty ()).exchanges =
      [⟨.service (.search "pony, safe"), Except.error BoardError.unreachable⟩] := by
  have hroute : ∀ command args, route "." Registry.builtin ".db pony" = .command command args →
      command.action ≠ .posts := by
    intro command args h
    have hto : ∃ c ∈ Command.builtin, c.action = .search ∧
        route "." Registry.builtin ".db pony" = .command c ["pony"] := by decide
    obtain ⟨c, -, hsearch, hc⟩ := hto
    rw [hc] at h
    cases h
    rw [hsearch]
    exact nofun
  exact ⟨hroute,
    sight_respond_congr rfl rfl hroute Store.answer (fun r (t : Unit) => (r.fail _, t)) _ _ () (),
    sight_respond_congr rfl rfl hroute Store.answer Store.answer _ _ _ (), by rfl⟩

end CommandBot
