/-
**What each command can ask for.**

Every command has its own window on the outside: the search asks the image board, the shell command
the roles of the author and then the host, the sun command a file, and so on.  No command writes to
the store, and only one reads from it.

* `CommandBot.Action.MayAsk` — the questions that an action is free to ask;
* `CommandBot.Action.perform_asks`, `CommandBot.Command.execute_asks` — **a command asks nothing
  else**;
* `CommandBot.Request.beside` — a store and its surroundings, each with a state of its own;
* `CommandBot.Command.execute_leavesStore`, `CommandBot.Command.execute_offStore` — no command
  writes to the store, and only one reads from it;
* `CommandBot.Service.refuse` — the answers of services that are down.
-/

import CommandBot.Bot.Respond
import CommandBot.Proofs.Users.Writes

set_option relaxedAutoImplicit false
set_option autoImplicit false

namespace CommandBot

open Program

/-! ### Tasks -/

namespace Task

variable {α : Type} {P : Request → Prop}

@[simp] theorem asks_ok (a : α) : (Task.ok a).Asks P := .done _

@[simp] theorem asks_fail (e : CommandError) : (Task.fail e : Task α).Asks P := .done _

/-- An operation on the store asks the store, and only what the operation asks. -/
theorem asks_ofStore {P' : StoreRequest → Prop} {operation : Program StoreRequest.Answer α}
    (h : operation.Asks P') (hP : ∀ r, P' r → P (.service (.store r))) :
    (ofStore operation).Asks P :=
  h.translate fun r hr => .ask (hP r hr) .done

end Task

/-! ### Commands -/

/-- The questions that an action is free to ask. -/
def Action.MayAsk (action : Action) (ctx : Context) : Request → Prop
  | .service (.store r) => action = .posts ∧ r = .getAll (userKey (Action.target ctx).id)
  | .service (.search _) => action = .search
  | .service (.shell _) => action = .shell
  | .service (.readFile _) => action = .sun
  | .authorIsAdmin => action = .shell
  | .authorVoice => action = .join

namespace Action

theorem explain_asks (args : List String) (ctx : Context) :
    (explain args ctx).Asks (MayAsk .help ctx) := by
  unfold explain
  split
  · exact Task.asks_ok _
  · split
    · exact Task.asks_ok _
    · exact Task.asks_ok _

theorem showImage_asks (args : List String) (ctx : Context) :
    (showImage args ctx).Asks (MayAsk .search ctx) := by
  unfold showImage
  split
  · exact Task.asks_fail _
  · exact .ask rfl fun found => .done _

theorem runLine_asks (line : String) (ctx : Context) :
    (runLine line).Asks (MayAsk .shell ctx) := by
  unfold runLine
  split
  · exact Task.asks_fail _
  · refine .ask rfl fun outcome => ?_
    split
    · exact Task.asks_ok _
    · exact Task.asks_fail _

theorem runAsAdmin_asks (args : List String) (ctx : Context) :
    (runAsAdmin args).Asks (MayAsk .shell ctx) := by
  refine .ask rfl fun answer => ?_
  cases answer with
  | error e => exact Task.asks_fail e
  | ok admin =>
      dsimp only
      split
      · exact runLine_asks _ ctx
      · exact Task.asks_fail _

theorem joinVoice_asks (ctx : Context) : (joinVoice ctx).Asks (MayAsk .join ctx) := by
  unfold joinVoice
  split
  · exact Task.asks_fail _
  · refine .ask rfl fun voice => ?_
    split
    · exact Task.asks_fail _
    · exact Task.asks_fail _

theorem showSun_asks (ctx : Context) : (showSun ctx).Asks (MayAsk .sun ctx) := by
  refine .ask rfl fun answer => ?_
  cases answer with
  | none => exact Task.asks_fail _
  | some data => exact Task.asks_ok _

theorem showRecord_asks (ctx : Context) : (showRecord ctx).Asks (MayAsk .posts ctx) := by
  unfold showRecord
  split
  · refine (Task.asks_ofStore (Users.find_asks _) fun r hr => ⟨rfl, hr⟩).bind fun result => ?_
    cases result with
    | error e => exact Task.asks_fail _
    | ok record => exact Task.asks_ok _
  · exact Task.asks_fail _

/-- **An action asks nothing but what it is free to ask.** -/
theorem perform_asks (action : Action) (args : List String) (ctx : Context) :
    (action.perform args ctx).Asks (action.MayAsk ctx) := by
  cases action with
  | ping => exact Task.asks_ok _
  | help => exact explain_asks args ctx
  | search => exact showImage_asks args ctx
  | shell => exact runAsAdmin_asks args ctx
  | join => exact joinVoice_asks ctx
  | leave => exact Task.asks_fail _
  | sun => exact showSun_asks ctx
  | posts => exact showRecord_asks ctx
  | canned reply => exact Task.asks_ok _

end Action

theorem Command.execute_asks (command : Command) (args : List String) (ctx : Context) :
    (command.execute args ctx).Asks (command.action.MayAsk ctx) := by
  unfold Command.execute
  split
  · exact Task.asks_fail _
  · exact Action.perform_asks command.action args ctx

/-- Counting a command asks the store. -/
theorem countAuthor_asks (ctx : Context) :
    (countAuthor ctx).Asks fun q => ∃ r, q = .service (.store r) := by
  unfold countAuthor
  split
  · exact (Task.asks_ofStore (Asks.trivial _) fun r _ => ⟨r, rfl⟩).bind fun _ => .done _
  · exact .done _

/-! ### A store and its surroundings -/

/-- A request that leaves the store as it is. -/
def Request.LeavesStore : Request → Prop
  | .service (.store (.setFields _ _)) => False
  | _ => True

/-- A question to the store. -/
def Request.isStore : Request → Bool
  | .service (.store _) => true
  | _ => false

theorem Request.isStore_iff {q : Request} :
    q.isStore = true ↔ ∃ r, q = .service (.store r) := by
  constructor
  · intro h
    match q, h with
    | .service (.store r), _ => exact ⟨r, rfl⟩
  · rintro ⟨r, rfl⟩
    rfl

/-- A store and its surroundings, side by side: each has a state of its own and answers the
questions put to it. -/
def Request.beside {τ σ : Type} (store : (r : StoreRequest) → τ → r.Answer × τ)
    (outside : (q : Request) → σ → q.Answer × σ) : (q : Request) → τ × σ → q.Answer × (τ × σ)
  | .service (.store r), s => ((store r s.1).1, (store r s.1).2, s.2)
  | q, s => ((outside q s.2).1, s.1, (outside q s.2).2)

section Beside

variable {α τ σ : Type} (store : (r : StoreRequest) → τ → r.Answer × τ)
  (outside : (q : Request) → σ → q.Answer × σ)

/-- Surroundings do not notice the store beside them. -/
theorem Request.beside_of_offStore {q : Request} (h : q.isStore = false) (t : τ) (s : σ) :
    beside store outside q (t, s) = ((outside q s).1, t, (outside q s).2) := by
  match q, h with
  | .service (.search _), _ => rfl
  | .service (.shell _), _ => rfl
  | .service (.readFile _), _ => rfl
  | .authorIsAdmin, _ => rfl
  | .authorVoice, _ => rfl

/-- A store does not change its surroundings. -/
theorem Request.after_beside_of_onStore (q : Request) (h : q.isStore = true) (s : τ × σ) :
    (beside store outside q s).2.2 = s.2 := by
  obtain ⟨r, rfl⟩ := isStore_iff.1 h
  rfl

/-- An operation on the store goes as it would go with the store alone. -/
theorem Task.run_ofStore_beside (p : Program StoreRequest.Answer α) (s : τ × σ) :
    (Task.ofStore p).run (Request.beside store outside) s =
      ((p.run store s.1).1, (p.run store s.1).2, s.2) := by
  induction p generalizing s with
  | done a => rfl
  | ask r next ih => exact ih _ _

/-- On its way it passes through the same stores. -/
theorem Task.states_ofStore_beside (p : Program StoreRequest.Answer α) (s : τ × σ) :
    ((Task.ofStore p).states (Request.beside store outside) s).map Prod.fst =
      p.states store s.1 := by
  induction p generalizing s with
  | done a => rfl
  | ask r next ih => exact congrArg (List.cons _) (ih _ _)

/-- Where reading changes nothing that is looked at, no request but a write does. -/
theorem Request.store_beside_of_leavesStore {ρ : Type} (view : τ → ρ)
    (hread : ∀ key t, view (store (.getAll key) t).2 = view t) (q : Request)
    (hq : q.LeavesStore) (s : τ × σ) : view (beside store outside q s).2.1 = view s.1 := by
  cases hstore : q.isStore with
  | false => rw [← Prod.eta s, beside_of_offStore store outside hstore]
  | true =>
      obtain ⟨r, rfl⟩ := isStore_iff.1 hstore
      cases r with
      | getAll key => exact hread key s.1
      | setFields key fields => exact hq.elim

end Beside

/-- **No command writes to the store.** -/
theorem Command.execute_leavesStore (command : Command) (args : List String) (ctx : Context) :
    (command.execute args ctx).Asks Request.LeavesStore := by
  refine (command.execute_asks args ctx).mono fun q hq => ?_
  match q, hq with
  | .service (.store (.getAll _)), _ => trivial
  | .service (.store (.setFields _ _)), ⟨_, hr⟩ => cases hr
  | .service (.search _), _ => trivial
  | .service (.shell _), _ => trivial
  | .service (.readFile _), _ => trivial
  | .authorIsAdmin, _ => trivial
  | .authorVoice, _ => trivial

/-- **No command but the one that shows a record asks the store.** -/
theorem Command.execute_offStore {command : Command} (h : command.action ≠ .posts)
    (args : List String) (ctx : Context) :
    (command.execute args ctx).Asks fun q => q.isStore = false := by
  refine (command.execute_asks args ctx).mono fun q hq => ?_
  rw [← Bool.not_eq_true, Request.isStore_iff]
  rintro ⟨r, rfl⟩
  exact h hq.1

/-! ### Services that are down -/

/-- The answer of a service that is down. -/
def Service.refuse : (s : Service) → s.Answer
  | .store r => r.fail (.backend "closed")
  | .search _ => Except.error BoardError.unreachable
  | .shell _ => Host.Outcome.unstartable "closed"
  | .readFile _ => none

end CommandBot
