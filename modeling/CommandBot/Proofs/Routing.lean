/-
**What a routed message says.**

A message that invokes a command is the prefix, the verb and the arguments with a space before each;
joining the arguments again gives what stands after the verb, with all its spaces.  Reading a
message and writing an invocation undo each other, whatever the prefix is made of, so that a message
is one invocation at most.

Main definitions:

* `CommandBot.Invocation.IsWritten` — a message is an invocation, written out.

Main results:

* `CommandBot.Invocation.text_of_parse?` — a message is written as the invocation that it is read
  as;
* `CommandBot.Invocation.parse?_eq_some_iff`, `CommandBot.Invocation.parse?_eq_none_iff` — **reading
  undoes writing**;
* `CommandBot.Invocation.text_eq_of_args`, `CommandBot.Invocation.exists_isWritten` — what stands
  after the verb;
* `CommandBot.Command.verb_of_shell` — the verbs that lead to the host;
* `CommandBot.route_iff` — **where a message goes**, by what is written in it.
-/

import CommandBot.Proofs.Registry
import CommandBot.Routing

set_option relaxedAutoImplicit false
set_option autoImplicit false

namespace CommandBot

/-! ### Messages -/

namespace Invocation

variable {lead message : String} {i : Invocation}

/-- Texts written as strings are read back. -/
theorem map_toList_map_ofList (parts : List (List Char)) :
    (parts.map String.ofList).map String.toList = parts := by
  have hsame : String.toList ∘ String.ofList = id := by
    funext s
    exact String.toList_ofList
  rw [List.map_map, hsame, List.map_id]

/-- A message is written as the invocation that it is read as. -/
theorem text_of_parse? (h : parse? lead message = some i) :
    lead ≠ "" ∧ message = i.text lead := by
  unfold parse? at h
  split at h
  · cases h
  · next hlead =>
      split at h
      · cases h
      · next rest hrest =>
          have hmessage := Text.afterStart?_eq_some_iff.1 hrest
          have hparts := parts_of_ofParts? h
          refine ⟨by simpa using hlead, ?_⟩
          rw [← String.toList_inj, text, String.toList_append, toList_body, hparts, hmessage,
            map_toList_map_ofList, List.intercalate_splitOn]

/-- The message is the invocation, written with the prefix: the verb and the arguments, which have
no spaces in them, with single spaces between them. -/
structure IsWritten (lead message : String) (i : Invocation) : Prop where
  lead_ne_empty : lead ≠ ""
  message_eq : message = lead ++ " ".intercalate (i.verb :: i.args)
  wellFormed : ∀ part ∈ i.verb :: i.args, ' ' ∉ part.toList

/-- The parts of a text between the marks have no mark in them. -/
theorem not_mem_of_mem_splitOn {mark : Char} {s part : List Char} (h : part ∈ s.splitOn mark) :
    mark ∉ part := by
  induction s generalizing part with
  | nil =>
      rw [List.splitOn_nil, List.mem_singleton] at h
      simp [h]
  | cons c rest ih =>
      rw [List.splitOn_cons_eq_if_modifyHead] at h
      cases hparts : rest.splitOn mark with
      | nil => exact absurd hparts (List.splitOn_ne_nil mark rest)
      | cons first others =>
          rw [hparts] at h ih
          split at h
          · rcases List.mem_cons.1 h with rfl | h
            · simp
            · exact ih h
          · next hc =>
              rcases List.mem_cons.1 h with rfl | h
              · have hne : mark ≠ c := by
                  rintro rfl
                  exact hc (beq_self_eq_true mark)
                simp [hne, ih List.mem_cons_self]
              · exact ih (List.mem_cons_of_mem first h)

/-- An invocation that a message is read as has no spaces in its parts. -/
theorem wellFormed_of_parse? (h : parse? lead message = some i) : i.WellFormed := by
  unfold parse? at h
  split at h
  · cases h
  · split at h
    · cases h
    · intro part hpart
      rw [parts_of_ofParts? h] at hpart
      obtain ⟨chars, hchars, rfl⟩ := List.mem_map.1 hpart
      rw [String.toList_ofList]
      exact not_mem_of_mem_splitOn hchars

/-- What is written is read back. -/
theorem parse?_text (hlead : lead ≠ "") (hi : i.WellFormed) :
    parse? lead (i.text lead) = some i := by
  have hrest : Text.afterStart? lead.toList (i.text lead).toList = some i.body.toList :=
    Text.afterStart?_eq_some_iff.2 (String.toList_append ..)
  have hsplit : i.body.toList.splitOn ' ' = i.parts.map String.toList := by
    rw [toList_body]
    refine List.splitOn_intercalate ' ' ?_ (by simp [parts])
    intro chars hchars
    obtain ⟨part, hpart, rfl⟩ := List.mem_map.1 hchars
    exact hi part hpart
  have hsame : String.ofList ∘ String.toList = id := by
    funext s
    exact String.ofList_toList
  rw [parse?, if_neg (by simpa using hlead), hrest]
  dsimp only
  rw [hsplit, List.map_map, hsame, List.map_id]
  rfl

/-- **A message is read as an invocation exactly if it is the invocation, written out.** -/
theorem parse?_eq_some_iff : parse? lead message = some i ↔ IsWritten lead message i := by
  constructor
  · intro h
    obtain ⟨hlead, hmessage⟩ := text_of_parse? h
    exact ⟨hlead, hmessage, wellFormed_of_parse? h⟩
  · rintro ⟨hlead, rfl, hi⟩
    exact parse?_text hlead hi

/-- **A message is read as nothing exactly if it does not begin with the prefix**, or there is no
prefix. -/
theorem parse?_eq_none_iff :
    parse? lead message = none ↔ lead = "" ∨ ¬ ∃ rest, message = lead ++ rest := by
  constructor
  · intro h
    by_contra hnot
    rw [not_or, not_not] at hnot
    obtain ⟨hlead, rest, rfl⟩ := hnot
    have hrest : Text.afterStart? lead.toList (lead ++ rest).toList = some rest.toList :=
      Text.afterStart?_eq_some_iff.2 (String.toList_append ..)
    rw [parse?, if_neg (by simpa using hlead), hrest] at h
    -- A text has at least one part.
    cases hparts : rest.toList.splitOn ' ' with
    | nil => exact List.splitOn_ne_nil _ _ hparts
    | cons verb args =>
        dsimp only at h
        rw [hparts] at h
        cases h
  · intro h
    cases hparse : parse? lead message with
    | none => rfl
    | some i =>
        obtain ⟨hlead, hmessage, -⟩ := parse?_eq_some_iff.1 hparse
        rcases h with rfl | hnot
        · exact absurd rfl hlead
        · exact absurd ⟨_, hmessage⟩ hnot

/-- **What stands after the verb**, if anything does, is the arguments as one line. -/
theorem text_eq_of_args (hargs : i.args ≠ []) :
    i.text lead = lead ++ (i.verb ++ " ") ++ " ".intercalate i.args := by
  rw [text, body, parts, String.intercalate_cons_of_ne_nil hargs, ← String.append_assoc]

/-- **A verb without a space and any text after it are written as an invocation**, whose arguments
as one line are the text. -/
theorem exists_isWritten (hlead : lead ≠ "") {verb : String} (hverb : ' ' ∉ verb.toList)
    (tail : String) :
    ∃ args, IsWritten lead (lead ++ verb ++ " " ++ tail) ⟨verb, args⟩ ∧
      " ".intercalate args = tail := by
  have hline : " ".intercalate ((tail.toList.splitOn ' ').map String.ofList) = tail := by
    rw [← String.toList_inj, String.toList_intercalate, map_toList_map_ofList]
    exact List.intercalate_splitOn ' '
  have hargs : (tail.toList.splitOn ' ').map String.ofList ≠ [] := by
    simp [List.splitOn_ne_nil]
  refine ⟨(tail.toList.splitOn ' ').map String.ofList, ⟨hlead, ?_, ?_⟩, hline⟩
  · rw [String.intercalate_cons_of_ne_nil hargs, hline]
    simp only [String.append_assoc]
  · intro part hpart
    rcases List.mem_cons.1 hpart with rfl | hpart
    · exact hverb
    · obtain ⟨chars, hchars, rfl⟩ := List.mem_map.1 hpart
      rw [String.toList_ofList]
      exact not_mem_of_mem_splitOn hchars

end Invocation

/-! ### Routes -/

/-- A message that goes to a command invokes one of its verbs. -/
theorem route_eq_command {lead message : String} {registry : Registry} {command : Command}
    {args : List String} (h : route lead registry message = .command command args) :
    ∃ verb, Invocation.parse? lead message = some ⟨verb, args⟩ ∧
      registry.resolve? verb = some command := by
  unfold route at h
  split at h
  · cases h
  · next i hi =>
      split at h
      · next found hfound =>
          cases h
          exact ⟨i.verb, hi, hfound⟩
      · cases h

/-- **The verbs that lead to the host**, and that they need no store. -/
theorem Command.verb_of_shell {verb : String} {command : Command}
    (h : Registry.builtin.resolve? verb = some command) (hshell : command.action = .shell) :
    (verb = "exec" ∨ verb = "sh") ∧ command.needsStore = false := by
  obtain ⟨hcommand, hverb⟩ := Registry.resolve?_eq_some_iff_mem.1 h
  have hbuiltin : ∀ c ∈ Command.builtin, c.action = .shell →
      c.verbs = ["exec", "sh"] ∧ c.needsStore = false := by decide
  obtain ⟨hverbs, hstore⟩ := hbuiltin command hcommand hshell
  rw [hverbs] at hverb
  exact ⟨by simpa using hverb, hstore⟩

/-- A message begins with a text if it is the text and a rest. -/
theorem isPrefixOf_toList_iff {lead message : String} :
    lead.toList.isPrefixOf message.toList = true ↔ ∃ rest, message = lead ++ rest := by
  rw [List.isPrefixOf_iff_prefix]
  constructor
  · rintro ⟨rest, hrest⟩
    refine ⟨String.ofList rest, String.toList_inj.1 ?_⟩
    rw [← hrest]
    simp
  · rintro ⟨rest, rfl⟩
    exact ⟨rest.toList, by simp⟩

/-- A message is passed over in silence if it begins with the prefix three times. -/
theorem isQuiet_iff {lead message : String} :
    isQuiet lead message = true ↔ ∃ rest, message = lead ++ lead ++ lead ++ rest := by
  rw [isQuiet, ← String.toList_append, ← String.toList_append, isPrefixOf_toList_iff]

section Routes

variable {lead message : String} {registry : Registry}

theorem route_eq_chat_iff :
    route lead registry message = .chat ↔ ∀ i, ¬ Invocation.IsWritten lead message i := by
  unfold route
  cases hi : Invocation.parse? lead message with
  | none =>
      refine iff_of_true rfl fun i hwritten => ?_
      rw [Invocation.parse?_eq_some_iff.2 hwritten] at hi
      cases hi
  | some i =>
      refine iff_of_false ?_ fun hnot => hnot i (Invocation.parse?_eq_some_iff.1 hi)
      dsimp only
      split
      · exact Route.noConfusion
      · exact Route.noConfusion

theorem route_eq_command_iff {command : Command} {args : List String} :
    route lead registry message = .command command args ↔
      ∃ verb, Invocation.IsWritten lead message ⟨verb, args⟩ ∧ command ∈ registry.commands ∧
        verb ∈ command.verbs := by
  constructor
  · intro h
    obtain ⟨verb, hverb, hcommand⟩ := route_eq_command h
    exact ⟨verb, Invocation.parse?_eq_some_iff.1 hverb, Registry.resolve?_eq_some_iff_mem.1 hcommand⟩
  · rintro ⟨verb, hwritten, hcommand, hverb⟩
    have hresolve := Registry.resolve?_eq_some_iff_mem.2 ⟨hcommand, hverb⟩
    simp only [route, Invocation.parse?_eq_some_iff.2 hwritten, hresolve]

theorem route_eq_unknown_iff {verb : String} {quiet : Bool} :
    route lead registry message = .unknown verb quiet ↔
      (∃ args, Invocation.IsWritten lead message ⟨verb, args⟩) ∧
        (∀ command ∈ registry.commands, verb ∉ command.verbs) ∧
          quiet = isQuiet lead message := by
  constructor
  · intro h
    unfold route at h
    split at h
    · cases h
    · next i hi =>
        split at h
        · cases h
        · next hnone =>
            cases h
            exact ⟨⟨i.args, Invocation.parse?_eq_some_iff.1 hi⟩,
              Registry.resolve?_eq_none_iff.1 hnone, rfl⟩
  · rintro ⟨⟨args, hwritten⟩, hnone, rfl⟩
    simp only [route, Invocation.parse?_eq_some_iff.2 hwritten,
      Registry.resolve?_eq_none_iff.2 hnone]

end Routes

/-- **Reading undoes writing, and a message goes where it is written to go.**  A message is read as
an invocation exactly if it is that invocation written out, so that it is one invocation at most; it
is read as none exactly if it does not begin with the prefix.  In a registry it goes to the command
that declares the verb, with the arguments as they are written; to nobody if there is no invocation;
and else it is unknown, in silence exactly if it begins with the prefix three times. -/
theorem route_iff (lead message : String) :
    (∀ verb args, Invocation.parse? lead message = some ⟨verb, args⟩ ↔
      lead ≠ "" ∧ message = lead ++ " ".intercalate (verb :: args) ∧
        ∀ part ∈ verb :: args, ' ' ∉ part.toList) ∧
    (Invocation.parse? lead message = none ↔ lead = "" ∨ ¬ ∃ rest, message = lead ++ rest) ∧
    (∀ i j, Invocation.IsWritten lead message i → Invocation.IsWritten lead message j → i = j) ∧
    ∀ commands registry, Registry.register commands = .ok registry →
      (∀ command args, route lead registry message = .command command args ↔
        ∃ verb, Invocation.IsWritten lead message ⟨verb, args⟩ ∧ command ∈ commands ∧
          verb ∈ command.verbs) ∧
      (route lead registry message = .chat ↔ ∀ i, ¬ Invocation.IsWritten lead message i) ∧
      ∀ verb quiet, route lead registry message = .unknown verb quiet ↔
        (∃ args, Invocation.IsWritten lead message ⟨verb, args⟩) ∧
          (∀ command ∈ commands, verb ∉ command.verbs) ∧
            (quiet = true ↔ ∃ rest, message = lead ++ lead ++ lead ++ rest) := by
  refine ⟨?_, Invocation.parse?_eq_none_iff, ?_, ?_⟩
  · intro verb args
    rw [Invocation.parse?_eq_some_iff]
    constructor
    · rintro ⟨hlead, hmessage, hparts⟩
      exact ⟨hlead, hmessage, hparts⟩
    · rintro ⟨hlead, hmessage, hparts⟩
      exact ⟨hlead, hmessage, hparts⟩
  · intro i j hi hj
    rw [← Invocation.parse?_eq_some_iff] at hi hj
    exact Option.some.inj (hi.symm.trans hj)
  · intro commands registry h
    obtain rfl := Registry.commands_of_register h
    refine ⟨fun command args => route_eq_command_iff, route_eq_chat_iff, ?_⟩
    intro verb quiet
    rw [route_eq_unknown_iff, ← isQuiet_iff, Bool.eq_iff_iff]

/-- A verb of the shell after a prefix of three characters, with spaces that are kept. -/
theorem route_iff_builtin :
    Registry.register Command.builtin = .ok Registry.builtin ∧ ∃ command,
      route "sb!" Registry.builtin "sb!sh  ls " = .command command ["", "ls", ""] ∧
        command.action = .shell := by
  obtain ⟨-, -, -, hroute⟩ := route_iff "sb!" "sb!sh  ls "
  obtain ⟨hcommand, -, -⟩ := hroute Command.builtin Registry.builtin Registry.register_builtin
  have hshell : ∃ command ∈ Command.builtin, "sh" ∈ command.verbs ∧ command.action = .shell := by
    decide
  obtain ⟨command, hmem, hverb, haction⟩ := hshell
  have hwritten : Invocation.IsWritten "sb!" "sb!sh  ls " ⟨"sh", ["", "ls", ""]⟩ :=
    ⟨by decide, by decide, by decide⟩
  exact ⟨Registry.register_builtin, command,
    (hcommand command _).2 ⟨"sh", hwritten, hmem, hverb⟩, haction⟩

end CommandBot
