/-
**Which commands can be registered, and what a verb invokes.**

A list of commands can be registered if every command has a verb, every verb can be written in a
message, and no verb is declared twice, by one command or by two.  Any other list is refused for its
first offence: the commands are looked at in their order and the verbs of each in theirs, and of a
verb it is first asked whether it can be written and then whether it is new.  In a registry a verb
invokes the one command that declares it.

Both sides are said of the list alone: what comes before an offence is free of offences, and nothing
is said of how the list is scanned or of what is remembered on the way.  That the index has the verbs
of the commands before the scan, and no others, is what carries both.

Main definitions:

* `CommandBot.Registry.Registrable` — the lists without an offence;
* `CommandBot.Registry.FirstOffence` — the first offence of a list.

Main results:

* `CommandBot.Registry.registrable_or_firstOffence` — every list has one or the other;
* `CommandBot.Registry.addCommands_append` — commands without an offence are added to the index;
* `CommandBot.Registry.register_of_firstOffence` — **the first offence is the one reported**;
* `CommandBot.Registry.resolve?_eq_some_iff_mem` — **a verb invokes the command that declares it**;
* `CommandBot.Registry.register_iff` — all of it in one statement.
-/

import CommandBot.Bot.Commands
import Mathlib.Data.List.Induction
import Mathlib.Data.List.Nodup

set_option relaxedAutoImplicit false
set_option autoImplicit false

namespace CommandBot.Registry

/-! ### Lists without an offence -/

/-- A verb that can be written in a message. -/
def Routable (verb : String) : Prop := verb ≠ "" ∧ ' ' ∉ verb.toList

theorem isRoutable_iff {verb : String} :
    VerbIndex.isRoutable verb = true ↔ Routable verb := by
  simp [VerbIndex.isRoutable, Routable]

/-- Verbs that can all be written, and none of them twice. -/
structure Clear (verbs : List String) : Prop where
  routable : ∀ verb ∈ verbs, Routable verb
  nodup : verbs.Nodup

theorem Clear.nil : Clear [] := ⟨by simp, .nil⟩

theorem Clear.of_append_left {first second : List String} (h : Clear (first ++ second)) :
    Clear first :=
  ⟨fun v hv => h.routable v (List.mem_append_left _ hv), h.nodup.of_append_left⟩

theorem Clear.of_append_right {first second : List String} (h : Clear (first ++ second)) :
    Clear second :=
  ⟨fun v hv => h.routable v (List.mem_append_right _ hv), h.nodup.of_append_right⟩

theorem clear_append_singleton {verbs : List String} {verb : String} :
    Clear (verbs ++ [verb]) ↔ Clear verbs ∧ Routable verb ∧ verb ∉ verbs := by
  constructor
  · rintro ⟨hroutable, hnodup⟩
    have hsplit : verbs.Nodup ∧ verb ∉ verbs := by
      simpa [List.nodup_append, imp_not_comm] using hnodup
    exact ⟨⟨fun v hv => hroutable v (by simp [hv]), hsplit.1⟩, hroutable verb (by simp), hsplit.2⟩
  · rintro ⟨⟨hroutable, hnodup⟩, hverb, hnew⟩
    refine ⟨?_, hnodup.append (List.nodup_singleton verb) (by simpa using hnew)⟩
    intro v hv
    rcases List.mem_append.1 hv with hv | hv
    · exact hroutable v hv
    · rw [List.mem_singleton.1 hv]
      exact hverb

/-- The verbs that some commands declare, one after another. -/
def verbsOf (commands : List Command) : List String := commands.flatMap Command.verbs

@[simp] theorem verbsOf_nil : verbsOf [] = [] := rfl

@[simp] theorem verbsOf_cons (c : Command) (commands : List Command) :
    verbsOf (c :: commands) = c.verbs ++ verbsOf commands := List.flatMap_cons

@[simp] theorem verbsOf_append (first second : List Command) :
    verbsOf (first ++ second) = verbsOf first ++ verbsOf second := List.flatMap_append

/-- **The lists without an offence**: every command has a verb, every verb can be written, and none
is declared twice. -/
structure Registrable (commands : List Command) : Prop where
  invocable : ∀ c ∈ commands, c.verbs ≠ []
  clear : Clear (verbsOf commands)

/-! ### The first offence -/

/-- **The first offence of a list**: nothing before it is an offence. -/
inductive FirstOffence (commands : List Command) : RegistryError → Prop where
  /-- A command has no verbs. -/
  | noVerbs {before after : List Command} {c : Command} (place : commands = before ++ c :: after)
      (earlier : Registrable before) (offence : c.verbs = []) :
      FirstOffence commands (.noVerbs c.name)
  /-- A verb cannot be written. -/
  | invalidVerb {before after : List Command} {c : Command} {verbs rest : List String}
      {verb : String} (place : commands = before ++ c :: after)
      (verbPlace : c.verbs = verbs ++ verb :: rest) (invocable : ∀ d ∈ before, d.verbs ≠ [])
      (earlier : Clear (verbsOf before ++ verbs)) (offence : ¬ Routable verb) :
      FirstOffence commands (.invalidVerb c.name verb)
  /-- A verb was declared before, by the command `first`, which may be the same command. -/
  | duplicateVerb {before after : List Command} {c first : Command} {verbs rest : List String}
      {verb : String} (place : commands = before ++ c :: after)
      (verbPlace : c.verbs = verbs ++ verb :: rest) (invocable : ∀ d ∈ before, d.verbs ≠ [])
      (earlier : Clear (verbsOf before ++ verbs)) (routable : Routable verb)
      (offence : first ∈ before ∧ verb ∈ first.verbs ∨ first = c ∧ verb ∈ verbs) :
      FirstOffence commands (.duplicateVerb verb first.name c.name)

/-- More commands at the end do not change the first offence. -/
theorem FirstOffence.append {commands : List Command} {e : RegistryError}
    (h : FirstOffence commands e) (more : List Command) : FirstOffence (commands ++ more) e := by
  cases h with
  | noVerbs place earlier offence =>
      exact .noVerbs (by rw [place, List.append_assoc, List.cons_append]) earlier offence
  | invalidVerb place verbPlace invocable earlier offence =>
      exact .invalidVerb (by rw [place, List.append_assoc, List.cons_append]) verbPlace invocable
        earlier offence
  | duplicateVerb place verbPlace invocable earlier routable offence =>
      exact .duplicateVerb (by rw [place, List.append_assoc, List.cons_append]) verbPlace invocable
        earlier routable offence

/-- More verbs are clear with those before them, or one of them is the first that is not. -/
theorem clear_or_split {scanned : List String} (hscanned : Clear scanned) (verbs : List String) :
    Clear (scanned ++ verbs) ∨ ∃ before verb after, verbs = before ++ verb :: after ∧
      Clear (scanned ++ before) ∧ (¬ Routable verb ∨ verb ∈ scanned ++ before) := by
  induction verbs generalizing scanned with
  | nil => exact .inl (by simpa using hscanned)
  | cons verb rest ih =>
      by_cases hroutable : Routable verb
      · by_cases hnew : verb ∈ scanned
        · exact .inr ⟨[], verb, rest, rfl, by simpa using hscanned, .inr (by simpa using hnew)⟩
        · have hmore := clear_append_singleton.2 ⟨hscanned, hroutable, hnew⟩
          rcases ih hmore with hclear | ⟨before, v, after, rfl, hclear, hoffence⟩
          · exact .inl (by simpa using hclear)
          · exact .inr ⟨verb :: before, v, after, rfl, by simpa using hclear,
              by simpa using hoffence⟩
      · exact .inr ⟨[], verb, rest, rfl, by simpa using hscanned, .inl hroutable⟩

/-- **Every list is without an offence or has a first one.** -/
theorem registrable_or_firstOffence (commands : List Command) :
    Registrable commands ∨ ∃ e, FirstOffence commands e := by
  induction commands using List.reverseRecOn with
  | nil => exact .inl ⟨by simp, Clear.nil⟩
  | append_singleton before c ih =>
      rcases ih with hbefore | ⟨e, he⟩
      · by_cases hverbs : c.verbs = []
        · exact .inr ⟨_, .noVerbs rfl hbefore hverbs⟩
        rcases clear_or_split hbefore.clear c.verbs with
          hclear | ⟨verbs, verb, rest, hplace, hclear, hoffence⟩
        · refine .inl ⟨?_, by simpa using hclear⟩
          intro d hd
          rcases List.mem_append.1 hd with hd | hd
          · exact hbefore.invocable d hd
          · rw [List.mem_singleton.1 hd]
            exact hverbs
        · by_cases hroutable : Routable verb
          · -- The verb is known, from a command before this one or from this one.
            have hknown : verb ∈ verbsOf before ++ verbs :=
              hoffence.resolve_left fun hnot => hnot hroutable
            rcases List.mem_append.1 hknown with hmem | hmem
            · obtain ⟨first, hfirst, hverb⟩ := List.mem_flatMap.1 hmem
              exact .inr ⟨_, .duplicateVerb rfl hplace hbefore.invocable hclear hroutable
                (.inl ⟨hfirst, hverb⟩)⟩
            · exact .inr ⟨_, .duplicateVerb rfl hplace hbefore.invocable hclear hroutable
                (.inr ⟨rfl, hmem⟩)⟩
          · exact .inr ⟨_, .invalidVerb rfl hplace hbefore.invocable hclear hroutable⟩
      · exact .inr ⟨e, he.append [c]⟩

/-! ### Scanning -/

section Scanning

variable {commands before after : List Command} {c : Command} {index : VerbIndex commands}
  {i : Fin commands.length} {done rest : List (Fin commands.length)}

/-- The commands at some positions. -/
def commandsAt (positions : List (Fin commands.length)) : List Command :=
  positions.map commands.get

theorem commandsAt_finRange (commands : List Command) :
    commandsAt (List.finRange commands.length) = commands :=
  List.map_getElem_finRange commands

theorem mem_commandsAt {d : Command} : d ∈ commandsAt done ↔ ∃ j ∈ done, commands.get j = d :=
  List.mem_map

/-- **Verbs without an offence are added to the index.** -/
theorem addVerbs_append {verbs : List String} (rest : List String) (hclear : Clear verbs)
    (hfree : ∀ verb ∈ verbs, index.get? verb = none) :
    VerbIndex.addVerbs i (verbs ++ rest) index =
      VerbIndex.addVerbs i rest (index.setAll (verbs.map fun verb => (verb, i))) := by
  induction verbs generalizing index with
  | nil => rfl
  | cons verb verbs ih =>
      obtain ⟨hroutable, hroutables⟩ := List.forall_mem_cons.1 hclear.routable
      obtain ⟨hnew, hnodup⟩ := List.nodup_cons.1 hclear.nodup
      obtain ⟨hverb, hverbs⟩ := List.forall_mem_cons.1 hfree
      have hleft : ∀ v ∈ verbs, (index.set verb i).get? v = none := by
        intro v hv
        have hne : verb ≠ v := by
          rintro rfl
          exact hnew hv
        rw [Table.get?_set_of_ne hne, hverbs v hv]
      rw [List.cons_append, VerbIndex.addVerbs, if_pos (isRoutable_iff.2 hroutable), hverb]
      dsimp only
      rw [ih ⟨hroutables, hnodup⟩ hleft]
      rfl

/-- Verbs without an offence are free, if those in the index come from elsewhere. -/
theorem get?_eq_none_of_clear {verbs : List String} (hindex : index.Covers done)
    (hclear : Clear (verbsOf (commandsAt done) ++ verbs)) :
    ∀ verb ∈ verbs, index.get? verb = none := by
  intro verb hverb
  rw [Option.eq_none_iff_forall_ne_some]
  intro j hj
  obtain ⟨hdone, hdeclared⟩ := (hindex verb j).1 hj
  have hmem : verb ∈ verbsOf (commandsAt done) :=
    List.mem_flatMap.2 ⟨_, mem_commandsAt.2 ⟨j, hdone, rfl⟩, hdeclared⟩
  exact List.disjoint_of_nodup_append hclear.nodup hmem hverb

/-- **Commands without an offence are added to the index.** -/
theorem addCommands_append {scanned : List (Fin commands.length)}
    (rest : List (Fin commands.length)) (hindex : index.Covers scanned)
    (hinvocable : ∀ d ∈ commandsAt done, d.verbs ≠ [])
    (hclear : Clear (verbsOf (commandsAt scanned) ++ verbsOf (commandsAt done))) :
    VerbIndex.addCommands (done ++ rest) index =
      VerbIndex.addCommands rest (index.setAll (VerbIndex.declarations done)) := by
  induction done generalizing scanned index with
  | nil => rfl
  | cons j done ih =>
      obtain ⟨hverbs, hothers⟩ := List.forall_mem_cons.1 hinvocable
      have hne : (commands.get j).verbs.isEmpty = false := by simpa using hverbs
      have hsplit : Clear ((verbsOf (commandsAt scanned) ++ (commands.get j).verbs) ++
          verbsOf (commandsAt done)) := by
        rwa [List.append_assoc]
      have hfree := get?_eq_none_of_clear hindex hsplit.of_append_left
      have hadd := addVerbs_append (i := j) [] hsplit.of_append_left.of_append_right hfree
      rw [List.append_nil, VerbIndex.addVerbs] at hadd
      have hstep : VerbIndex.addCommands [j] index =
          .ok (index.setAll ((commands.get j).verbs.map fun verb => (verb, j))) := by
        rw [VerbIndex.addCommands, hne, hadd]
        rfl
      have hnext := hindex.addCommands hstep
      rw [List.cons_append, VerbIndex.addCommands, hne, hadd]
      dsimp only [Bool.false_eq_true, if_false]
      rw [ih hnext hothers (by simpa [commandsAt] using hsplit), ← Table.setAll_append]
      rfl

/-- From the start, the scan comes to what follows commands without an offence, with their verbs in
the index. -/
theorem fill_append (hplace : List.finRange commands.length = done ++ rest)
    (hearlier : Registrable (commandsAt done)) :
    VerbIndex.fill commands =
        VerbIndex.addCommands rest (Table.ofList (VerbIndex.declarations done)) ∧
      VerbIndex.Covers (Table.ofList (VerbIndex.declarations done)) done := by
  have hempty : VerbIndex.Covers (Table.empty : VerbIndex commands) [] := fun verb j => by simp
  have hscan := fun more => addCommands_append more hempty hearlier.invocable
    hearlier.clear
  have hdone := hscan []
  rw [List.append_nil] at hdone
  rw [VerbIndex.fill, hplace]
  exact ⟨hscan rest, hempty.addCommands hdone⟩

/-- The scan comes to a command when nothing before it is an offence. -/
theorem exists_fill_eq (hplace : commands = before ++ c :: after) (hearlier : Registrable before) :
    ∃ (index : VerbIndex commands) (i : Fin commands.length) (done rest : List (Fin commands.length)),
      commands.get i = c ∧ commandsAt done = before ∧ index.Covers done ∧
        VerbIndex.fill commands = VerbIndex.addCommands (i :: rest) index := by
  have hmap := (commandsAt_finRange commands).trans hplace
  obtain ⟨done, others, hrange, rfl, hothers⟩ := List.map_eq_append_iff.1 hmap
  obtain ⟨i, rest, rfl, rfl, -⟩ := List.map_eq_cons_iff.1 hothers
  obtain ⟨hfill, hcovers⟩ := fill_append hrange hearlier
  exact ⟨_, i, done, rest, rfl, rfl, hcovers, hfill⟩

end Scanning

/-! ### Registering -/

section Registering

variable {commands : List Command} {registry : Registry} {e : RegistryError}

theorem register_of_fill {index : VerbIndex commands} (h : VerbIndex.fill commands = .ok index) :
    register commands = .ok (ofIndex h) := by
  rw [register]
  split
  · next found hfound =>
      rw [h] at hfound
      cases hfound
      rfl
  · next found hfound =>
      rw [h] at hfound
      cases hfound

theorem register_eq_error_of_fill (h : VerbIndex.fill commands = .error e) :
    register commands = .error e := by
  rw [register]
  split
  · next found hfound =>
      rw [h] at hfound
      cases hfound
  · next found hfound =>
      rw [h] at hfound
      cases hfound
      rfl

/-- A registry has the commands that were registered. -/
theorem commands_of_register (h : register commands = .ok registry) :
    registry.commands = commands := by
  rw [register] at h
  split at h
  · cases h
    rfl
  · cases h

/-- **A list without an offence is registered.** -/
theorem exists_register_of_registrable (h : Registrable commands) :
    ∃ registry, register commands = .ok registry := by
  have hall : List.finRange commands.length = List.finRange commands.length ++ [] :=
    (List.append_nil _).symm
  obtain ⟨hfill, -⟩ := fill_append hall (by rwa [commandsAt_finRange])
  exact ⟨_, register_of_fill hfill⟩

/-- **The first offence is the one reported.** -/
theorem register_of_firstOffence (h : FirstOffence commands e) : register commands = .error e := by
  refine register_eq_error_of_fill ?_
  cases h with
  | noVerbs place earlier offence =>
      obtain ⟨index, i, done, rest, rfl, -, -, hfill⟩ := exists_fill_eq place earlier
      rw [hfill, VerbIndex.addCommands, offence]
      rfl
  | @invalidVerb before after c verbs others verb place verbPlace invocable earlier offence =>
      obtain ⟨index, i, done, rest, rfl, rfl, hindex, hfill⟩ :=
        exists_fill_eq place ⟨invocable, earlier.of_append_left⟩
      have hbad : VerbIndex.isRoutable verb = false := by
        rw [Bool.eq_false_iff, ne_eq, isRoutable_iff]
        exact offence
      have hadd := addVerbs_append (i := i) (verb :: others) earlier.of_append_right
        (get?_eq_none_of_clear hindex earlier)
      rw [hfill, VerbIndex.addCommands, verbPlace, hadd, VerbIndex.addVerbs, hbad]
      simp
  | @duplicateVerb before after c first verbs others verb place verbPlace invocable earlier routable
      offence =>
      obtain ⟨index, i, done, rest, rfl, rfl, hindex, hfill⟩ :=
        exists_fill_eq place ⟨invocable, earlier.of_append_left⟩
      have hfree := get?_eq_none_of_clear hindex earlier
      have hadd := addVerbs_append (i := i) (verb :: others) earlier.of_append_right hfree
      have hbefore := addVerbs_append (i := i) [] earlier.of_append_right hfree
      rw [List.append_nil, VerbIndex.addVerbs] at hbefore
      -- The verb is in the index already, from a command before this one or from this one.
      obtain ⟨j, rfl, hj⟩ : ∃ j, commands.get j = first ∧
          (index.setAll (verbs.map fun verb => (verb, i))).get? verb = some j := by
        rcases offence with ⟨hfirst, hverb⟩ | ⟨rfl, hverb⟩
        · obtain ⟨j, hdone, rfl⟩ := mem_commandsAt.1 hfirst
          exact ⟨j, rfl, (VerbIndex.get?_of_addVerbs hbefore verb j).2
            (.inl ((hindex verb j).2 ⟨hdone, hverb⟩))⟩
        · exact ⟨i, rfl, (VerbIndex.get?_of_addVerbs hbefore verb i).2 (.inr ⟨rfl, hverb⟩)⟩
      rw [hfill, VerbIndex.addCommands, verbPlace, hadd, VerbIndex.addVerbs,
        if_pos (isRoutable_iff.2 routable), hj]
      simp

theorem register_eq_error_iff : register commands = .error e ↔ FirstOffence commands e := by
  constructor
  · intro h
    rcases registrable_or_firstOffence commands with hgood | ⟨e', he'⟩
    · obtain ⟨registry, hregistry⟩ := exists_register_of_registrable hgood
      rw [hregistry] at h
      cases h
    · rw [register_of_firstOffence he'] at h
      cases h
      exact he'
  · exact register_of_firstOffence

theorem exists_register_iff :
    (∃ registry, register commands = .ok registry) ↔ Registrable commands := by
  constructor
  · rintro ⟨registry, h⟩
    rcases registrable_or_firstOffence commands with hgood | ⟨e, he⟩
    · exact hgood
    · rw [register_of_firstOffence he] at h
      cases h
  · exact exists_register_of_registrable

end Registering

/-! ### Resolving -/

section Resolving

variable {registry : Registry} {verb : String} {c d : Command}

/-- **A verb invokes the command that declares it**: the index leads to its position. -/
theorem resolve?_eq_some_iff_mem :
    registry.resolve? verb = some c ↔ c ∈ registry.commands ∧ verb ∈ c.verbs := by
  rw [resolve?, Option.map_eq_some_iff]
  constructor
  · rintro ⟨i, hi, rfl⟩
    exact ⟨List.getElem_mem i.isLt, (registry.declared verb i).1 hi⟩
  · rintro ⟨hc, hverb⟩
    obtain ⟨i, hi, rfl⟩ := List.mem_iff_getElem.1 hc
    exact ⟨⟨i, hi⟩, (registry.declared verb ⟨i, hi⟩).2 hverb, rfl⟩

theorem resolve?_eq_none_iff :
    registry.resolve? verb = none ↔ ∀ c ∈ registry.commands, verb ∉ c.verbs := by
  rw [Option.eq_none_iff_forall_ne_some]
  constructor
  · intro h c hc hverb
    exact h c (resolve?_eq_some_iff_mem.2 ⟨hc, hverb⟩)
  · intro h c hresolve
    obtain ⟨hc, hverb⟩ := resolve?_eq_some_iff_mem.1 hresolve
    exact h c hc hverb

/-- A verb is declared at one position only, since the index has one for it. -/
theorem position_unique {i j : Nat} (hi : registry.commands[i]? = some c)
    (hj : registry.commands[j]? = some d) (hc : verb ∈ c.verbs) (hd : verb ∈ d.verbs) : i = j := by
  obtain ⟨hi', rfl⟩ := List.getElem?_eq_some_iff.1 hi
  obtain ⟨hj', rfl⟩ := List.getElem?_eq_some_iff.1 hj
  have hfirst := (registry.declared verb ⟨i, hi'⟩).2 hc
  rw [(registry.declared verb ⟨j, hj'⟩).2 hd] at hfirst
  exact (congrArg Fin.val (Option.some.inj hfirst)).symm

/-- The command that a verb invokes declares it, at the one position where it is declared. -/
theorem resolve?_eq_some_iff : registry.resolve? verb = some c ↔
    ∃ i : Nat, registry.commands[i]? = some c ∧ verb ∈ c.verbs ∧
      ∀ (j : Nat) (d : Command), registry.commands[j]? = some d → verb ∈ d.verbs → j = i := by
  rw [resolve?_eq_some_iff_mem]
  constructor
  · rintro ⟨hc, hverb⟩
    obtain ⟨i, hi⟩ := List.getElem?_of_mem hc
    exact ⟨i, hi, hverb, fun j d hj hd => position_unique hj hi hd hverb⟩
  · rintro ⟨i, hi, hverb, -⟩
    exact ⟨List.mem_of_getElem? hi, hverb⟩

end Resolving

/-- **Registering and resolving.**  A list of commands is registered exactly if every command has a
verb, every verb can be written and none is declared twice; it is refused for an error exactly if
that is its first offence.  The registry has the commands in their order.  Its index leads from a
verb to a position exactly if the command there declares the verb, and what a verb invokes is the
command at its position: the one command that declares it, and nothing if there is none. -/
theorem register_iff (commands : List Command) :
    ((∃ registry, register commands = .ok registry) ↔
      (∀ c ∈ commands, c.verbs ≠ []) ∧
        (∀ verb ∈ commands.flatMap Command.verbs, verb ≠ "" ∧ ' ' ∉ verb.toList) ∧
        (commands.flatMap Command.verbs).Nodup) ∧
    (∀ e, register commands = .error e ↔ FirstOffence commands e) ∧
    ∀ registry, register commands = .ok registry → registry.commands = commands ∧ ∀ verb,
      (∀ i, registry.verbs.get? verb = some i ↔ verb ∈ (registry.commands.get i).verbs) ∧
      registry.resolve? verb = (registry.verbs.get? verb).map registry.commands.get ∧
      (∀ c, registry.resolve? verb = some c ↔ ∃ i : Nat, commands[i]? = some c ∧ verb ∈ c.verbs ∧
        ∀ (j : Nat) (d : Command), commands[j]? = some d → verb ∈ d.verbs → j = i) ∧
      (registry.resolve? verb = none ↔ ∀ c ∈ commands, verb ∉ c.verbs) := by
  refine ⟨?_, fun e => register_eq_error_iff, ?_⟩
  · rw [exists_register_iff]
    constructor
    · rintro ⟨hinvocable, hroutable, hnodup⟩
      exact ⟨hinvocable, hroutable, hnodup⟩
    · rintro ⟨hinvocable, hroutable, hnodup⟩
      exact ⟨hinvocable, hroutable, hnodup⟩
  · intro registry h
    obtain rfl := commands_of_register h
    exact ⟨rfl, fun verb => ⟨registry.declared verb, rfl, fun c => resolve?_eq_some_iff,
      resolve?_eq_none_iff⟩⟩

/-- The shortest verb of the search is declared at one place only. -/
theorem register_iff_builtin :
    register Command.builtin = .ok builtin ∧ ∃ (c : Command) (i : Nat),
      builtin.resolve? "db" = some c ∧ c.action = .search ∧ Command.builtin[i]? = some c ∧
        ∀ (j : Nat) (d : Command), Command.builtin[j]? = some d → "db" ∈ d.verbs → j = i := by
  obtain ⟨-, -, hregistered⟩ := register_iff Command.builtin
  obtain ⟨-, hresolve⟩ := hregistered builtin register_builtin
  obtain ⟨-, -, hsome, -⟩ := hresolve "db"
  cases hc : builtin.resolve? "db" with
  | none => exact absurd hc (by decide)
  | some c =>
      obtain ⟨i, hi, -, hother⟩ := (hsome c).1 hc
      have haction : (builtin.resolve? "db").map Command.action = some .search := by decide
      rw [hc] at haction
      exact ⟨register_builtin, c, i, rfl, Option.some.inj haction, hi, hother⟩

/-- A verb that cannot be written is found before one that comes later and is declared twice. -/
example : register [⟨"Echo", ["e", "two words", "e"], "", "", false, .ping⟩] =
    .error (.invalidVerb "Echo" "two words") := by rfl

end CommandBot.Registry
