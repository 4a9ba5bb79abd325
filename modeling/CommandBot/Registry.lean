/-
**Commands and the registry of their verbs.**

A command has a name, the verbs that invoke it, and what it does.  A registry is a list of commands
with an index of their verbs, which is filled once, when the commands are registered.  Every verb can
be written in a message and belongs to one command only; a list in which that is not so is refused
while the index is filled.

* `CommandBot.Action` — what a command does;
* `CommandBot.Command` — a command;
* `CommandBot.RegistryError` — why a list of commands is refused;
* `CommandBot.VerbIndex` — the positions of commands under their verbs;
* `CommandBot.VerbIndex.fill` — the index of a list of commands;
* `CommandBot.VerbIndex.Covers.addCommands` — **what the index has while it is filled**;
* `CommandBot.Registry` — the registered commands with their index;
* `CommandBot.Registry.register` — the registry of a list of commands;
* `CommandBot.Registry.resolve?` — the command that a verb invokes.
-/

import CommandBot.Reply.Basic
import CommandBot.Table
import CommandBot.Text.Quoted

set_option relaxedAutoImplicit false
set_option autoImplicit false

namespace CommandBot

/-! ### Commands -/

/-- What a command does. -/
inductive Action where
  /-- Answer, to show that the bot is there. -/
  | ping
  /-- Explain the commands. -/
  | help
  /-- Search the image board. -/
  | search
  /-- Run a program of the host. -/
  | shell
  /-- Join the author's voice channel. -/
  | join
  /-- Leave the voice channel. -/
  | leave
  /-- Send the picture of the sun. -/
  | sun
  /-- Show how many commands a user has sent. -/
  | posts
  /-- Answer with a fixed reply. -/
  | canned (reply : Reply)
deriving DecidableEq, Repr

/-- A command. -/
structure Command where
  name : String
  /-- The words that invoke it. -/
  verbs : List String
  description : String
  usage : String
  /-- Whether it can only work with a store. -/
  needsStore : Bool
  action : Action
deriving DecidableEq, Repr

/-- A command as a log describes it. -/
def Command.describe (c : Command) : String :=
  "Command \x7b name: " ++ Text.quote c.name ++ ", verbs: " ++ Text.quoteList c.verbs ++
    ", needs_store: " ++ (if c.needsStore then "true" else "false") ++ " \x7d"

/-! ### Errors -/

/-- Why a list of commands is refused. -/
inductive RegistryError where
  /-- Two commands declare a verb, or one declares it twice. -/
  | duplicateVerb (verb first second : String)
  /-- A command cannot be invoked at all. -/
  | noVerbs (command : String)
  /-- A verb cannot be written in a message. -/
  | invalidVerb (command verb : String)
deriving DecidableEq, Repr

/-- The wording of an error in a list of commands. -/
def RegistryError.message : RegistryError → String
  | .duplicateVerb verb first second =>
      "verb '" ++ verb ++ "' is declared by both '" ++ first ++ "' and '" ++ second ++ "'"
  | .noVerbs command => "command '" ++ command ++ "' declares no verbs"
  | .invalidVerb command verb =>
      "command '" ++ command ++ "' declares unroutable verb '" ++ verb ++ "'"

/-! ### The index of the verbs -/

/-- The positions of commands under their verbs. -/
abbrev VerbIndex (commands : List Command) := Table (Fin commands.length)

namespace VerbIndex

variable {commands : List Command} {index left : VerbIndex commands} {i : Fin commands.length}

/-- A verb that can be written in a message: it is not empty and has no space. -/
def isRoutable (verb : String) : Bool := !verb.isEmpty && !verb.toList.contains ' '

/-- The index with more verbs of the command at a position, or the first offence among them. -/
def addVerbs (i : Fin commands.length) :
    List String → VerbIndex commands → Except RegistryError (VerbIndex commands)
  | [], index => .ok index
  | verb :: rest, index =>
      if isRoutable verb then
        match index.get? verb with
        | some existing =>
            .error (.duplicateVerb verb (commands.get existing).name (commands.get i).name)
        | none => addVerbs i rest (index.set verb i)
      else .error (.invalidVerb (commands.get i).name verb)

/-- The index with the verbs of the commands at more positions, or the first offence among them. -/
def addCommands :
    List (Fin commands.length) → VerbIndex commands → Except RegistryError (VerbIndex commands)
  | [], index => .ok index
  | i :: rest, index =>
      if (commands.get i).verbs.isEmpty then .error (.noVerbs (commands.get i).name)
      else
        match addVerbs i (commands.get i).verbs index with
        | .ok index => addCommands rest index
        | .error e => .error e

/-- **The index of some commands**, or the first offence among them. -/
def fill (commands : List Command) : Except RegistryError (VerbIndex commands) :=
  addCommands (List.finRange commands.length) Table.empty

/-- The verbs of the commands at some positions, each with its position. -/
def declarations (positions : List (Fin commands.length)) : List (String × Fin commands.length) :=
  positions.flatMap fun i => (commands.get i).verbs.map fun verb => (verb, i)

/-- The index has the verbs of the commands at some positions, each with its position, and no other
verb. -/
def Covers (index : VerbIndex commands) (scanned : List (Fin commands.length)) : Prop :=
  ∀ verb i, index.get? verb = some i ↔ i ∈ scanned ∧ verb ∈ (commands.get i).verbs

/-- What the verbs of a command add: their position, under names that were free. -/
theorem get?_of_addVerbs {verbs : List String} (h : addVerbs i verbs index = .ok left)
    (verb : String) (j : Fin commands.length) :
    left.get? verb = some j ↔ index.get? verb = some j ∨ j = i ∧ verb ∈ verbs := by
  induction verbs generalizing index with
  | nil =>
      cases h
      simp
  | cons first rest ih =>
      rw [addVerbs] at h
      split at h
      · cases hfree : index.get? first with
        | some existing =>
            rw [hfree] at h
            cases h
        | none =>
            rw [hfree] at h
            rw [ih h, Table.get?_set]
            by_cases heq : first = verb
            · subst heq
              rw [if_pos rfl, hfree]
              have hmem : first ∈ first :: rest := List.mem_cons_self
              simp only [Option.some.injEq, reduceCtorEq, false_or, hmem, and_true]
              constructor
              · rintro (rfl | ⟨rfl, -⟩)
                · rfl
                · rfl
              · rintro rfl
                exact .inl rfl
            · simp [heq, Ne.symm heq]
      · cases h

/-- **Each step of the scan keeps the index to the commands that were scanned.** -/
theorem Covers.addCommands {scanned rest : List (Fin commands.length)} (hindex : index.Covers scanned)
    (h : addCommands rest index = .ok left) : left.Covers (scanned ++ rest) := by
  induction rest generalizing scanned index with
  | nil =>
      cases h
      rwa [List.append_nil]
  | cons i rest ih =>
      rw [VerbIndex.addCommands] at h
      split at h
      · cases h
      · cases hverbs : addVerbs i (commands.get i).verbs index with
        | error e =>
            rw [hverbs] at h
            cases h
        | ok next =>
            rw [hverbs] at h
            have hnext : next.Covers (scanned ++ [i]) := by
              intro verb j
              rw [get?_of_addVerbs hverbs, hindex verb j, List.mem_append, List.mem_singleton,
                or_and_right]
              refine or_congr Iff.rfl (and_congr_right fun hj => ?_)
              rw [hj]
            have hleft := ih hnext h
            rwa [List.append_assoc] at hleft

/-- **The index of some commands has all their verbs.** -/
theorem get?_of_fill (h : fill commands = .ok index) (verb : String) (i : Fin commands.length) :
    index.get? verb = some i ↔ verb ∈ (commands.get i).verbs := by
  have hempty : Covers (Table.empty : VerbIndex commands) [] := fun verb i => by simp
  have hcovers := hempty.addCommands h verb i
  simpa using hcovers

end VerbIndex

/-! ### Registries -/

/-- The registered commands with the index of their verbs. -/
structure Registry where
  /-- The commands in the order in which they were given. -/
  commands : List Command
  verbs : VerbIndex commands
  /-- A verb is found at the position of the command that declares it. -/
  declared : ∀ verb i, verbs.get? verb = some i ↔ verb ∈ (commands.get i).verbs
deriving DecidableEq, Repr

namespace Registry

/-- Commands with the index that was filled with their verbs. -/
def ofIndex {commands : List Command} {index : VerbIndex commands}
    (h : VerbIndex.fill commands = .ok index) : Registry where
  commands := commands
  verbs := index
  declared := VerbIndex.get?_of_fill h

/-- **The registry of a list of commands**, or the first offence in it. -/
def register (commands : List Command) : Except RegistryError Registry :=
  match h : VerbIndex.fill commands with
  | .ok _ => .ok (ofIndex h)
  | .error e => .error e

/-- **The command that a verb invokes.** -/
def resolve? (r : Registry) (verb : String) : Option Command :=
  (r.verbs.get? verb).map r.commands.get

end Registry

end CommandBot
