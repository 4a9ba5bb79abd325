/-
**What the help texts tell.**

The list of commands has two lines for each command below its header, so the names and usages can be
read from it.  The details of a command end with its verbs below a heading, and they can be read from
there: whatever the description says, and even if a verb looks like the heading, a list of verbs
follows the heading at one place only.

Main definitions:

* `CommandBot.Help.lines` — the lines of a text;
* `CommandBot.Help.readListing?` — **the names and usages that a list of commands tells**;
* `CommandBot.Help.readVerbs?` — the verbs that a list of verbs tells;
* `CommandBot.Help.findVerbs?` — **the verbs that the details of a command tell.**

Main results:

* `CommandBot.Help.lines_listing` — **the list has two lines for each command**;
* `CommandBot.Help.readListing?_listing` — the names and usages are read from it;
* `CommandBot.Help.readVerbs?_eq_some_iff` — the verbs are read from their list, and from nothing
  else;
* `CommandBot.Help.findVerbs?_details` — they are read from the details;
* `CommandBot.Help.help_tells_commands` — all of it about the help command.
-/

import CommandBot.Bot.Perform
import CommandBot.Proofs.Registry

set_option relaxedAutoImplicit false
set_option autoImplicit false

namespace CommandBot.Help

open Text (afterStart? afterStart?_eq_some_iff splitAtFirst? splitAtFirst?_eq_some_iff)

/-! ### Lines -/

/-- The lines of a text; behind a line end at its end there is an empty one. -/
def lines (text : String) : List String := (text.toList.splitOn '\n').map String.ofList

/-- A text without a line end. -/
def IsOneLine (text : String) : Prop := '\n' ∉ text.toList

instance (text : String) : Decidable (IsOneLine text) :=
  inferInstanceAs (Decidable ('\n' ∉ text.toList))

theorem lines_append (s t : String) : lines (s ++ "\n" ++ t) = lines s ++ lines t := by
  have hend : "\n".toList = ['\n'] := rfl
  rw [lines, String.toList_append, String.toList_append, hend, List.append_assoc,
    List.singleton_append, List.splitOn_append_cons_self, List.map_append]
  rfl

theorem lines_of_isOneLine {s : String} (h : IsOneLine s) : lines s = [s] := by
  rw [lines, List.splitOn_eq_singleton h, List.map_singleton, String.ofList_toList]

theorem IsOneLine.code {s : String} (h : IsOneLine s) : IsOneLine (code s) := by
  simpa [IsOneLine, Help.code] using h

theorem IsOneLine.append {s t : String} (hs : IsOneLine s) (ht : IsOneLine t) :
    IsOneLine (s ++ t) := by
  rw [IsOneLine, String.toList_append, List.mem_append]
  exact not_or.2 ⟨hs, ht⟩

/-! ### The list of commands -/

section Listing

variable {lead : String} {c : Command} {commands : List Command}

/-- The lines above the list of commands. -/
def headerLines : List String := ["**Sunbot " ++ version ++ "**", "", "__Commands:__", ""]

/-- The two lines of a command. -/
def entryLines (lead : String) (c : Command) : List String := [c.name, code (lead ++ c.usage)]

/-- A command that is told in two lines. -/
def IsTwoLines (c : Command) : Prop := IsOneLine c.name ∧ IsOneLine c.usage

instance (c : Command) : Decidable (IsTwoLines c) :=
  inferInstanceAs (Decidable (IsOneLine c.name ∧ IsOneLine c.usage))

theorem lines_header_append (t : String) : lines (header ++ t) = headerLines ++ lines t := by
  have hheader : header = "**Sunbot " ++ version ++ "**\n\n__Commands:__\n" ++ "\n" := by decide
  have hlines : lines ("**Sunbot " ++ version ++ "**\n\n__Commands:__\n") = headerLines := by decide
  rw [hheader, lines_append, hlines]

theorem lines_entry_append (hlead : IsOneLine lead) (hc : IsTwoLines c) (t : String) :
    lines (entry lead c ++ t) = entryLines lead c ++ lines t := by
  have hentry : entry lead c ++ t = c.name ++ "\n" ++ (code (lead ++ c.usage) ++ "\n" ++ t) := by
    simp only [entry, String.append_assoc]
  rw [hentry, lines_append, lines_append, lines_of_isOneLine hc.1,
    lines_of_isOneLine (hlead.append hc.2).code]
  rfl

theorem lines_join_entries (hlead : IsOneLine lead) (hcommands : ∀ c ∈ commands, IsTwoLines c) :
    lines (String.join (commands.map (entry lead))) =
      commands.flatMap (entryLines lead) ++ [""] := by
  induction commands with
  | nil => rfl
  | cons c commands ih =>
      rw [List.map_cons, String.join_cons, lines_entry_append hlead (hcommands c (by simp)),
        ih fun d hd => hcommands d (by simp [hd]), List.flatMap_cons, List.append_assoc]

/-- **The list has two lines for each command**, in order, below its header. -/
theorem lines_listing {registry : Registry} (hlead : IsOneLine lead)
    (hcommands : ∀ c ∈ registry.commands, IsTwoLines c) :
    lines (listing registry lead) =
      headerLines ++ registry.commands.flatMap (entryLines lead) ++ [""] := by
  rw [listing, lines_header_append, lines_join_entries hlead hcommands, List.append_assoc]

/-- The usage that is shown as code with the prefix before it. -/
def readUsage? (lead line : String) : Option String :=
  match afterStart? ("`" ++ lead).toList line.toList with
  | some rest => if rest.getLast? = some '`' then some (String.ofList rest.dropLast) else none
  | none => none

/-- The names and usages that lines tell, two by two; an empty line ends them. -/
def readEntries? (lead : String) : List String → Option (List (String × String))
  | [] => none
  | [last] => if last = "" then some [] else none
  | name :: line :: rest =>
      match readUsage? lead line, readEntries? lead rest with
      | some usage, some entries => some ((name, usage) :: entries)
      | _, _ => none

/-- **The names and usages that a list of commands tells.** -/
def readListing? (lead text : String) : Option (List (String × String)) :=
  if (lines text).take headerLines.length = headerLines then
    readEntries? lead ((lines text).drop headerLines.length)
  else none

theorem readUsage?_code (lead usage : String) :
    readUsage? lead (code (lead ++ usage)) = some usage := by
  have hcode : (code (lead ++ usage)).toList = ("`" ++ lead).toList ++ (usage.toList ++ ['`']) := by
    simp [code]
  rw [readUsage?, afterStart?_eq_some_iff.2 hcode]
  simp

theorem readEntries?_flatMap (lead : String) (commands : List Command) :
    readEntries? lead (commands.flatMap (entryLines lead) ++ [""]) =
      some (commands.map fun c => (c.name, c.usage)) := by
  induction commands with
  | nil => rfl
  | cons c commands ih =>
      rw [List.flatMap_cons, entryLines, List.append_assoc, List.cons_append, List.singleton_append,
        readEntries?, readUsage?_code, ih]
      rfl

/-- **The names and usages are read from the list.** -/
theorem readListing?_listing {registry : Registry} (hlead : IsOneLine lead)
    (hcommands : ∀ c ∈ registry.commands, IsTwoLines c) :
    readListing? lead (listing registry lead) =
      some (registry.commands.map fun c => (c.name, c.usage)) := by
  rw [readListing?, lines_listing hlead hcommands, List.append_assoc, List.take_left,
    if_pos rfl, List.drop_left, readEntries?_flatMap]

end Listing

/-! ### Lists of verbs -/

section Verbs

variable {lead verb : String} {s after : List Char} {verbs rest : List String}

/-- A text without the mark around code. -/
def IsUnmarked (text : String) : Prop := '`' ∉ text.toList

instance (text : String) : Decidable (IsUnmarked text) :=
  inferInstanceAs (Decidable ('`' ∉ text.toList))

/-- Verbs that can be told from each other where they are shown as code. -/
structure IsTellable (lead : String) (verbs : List String) : Prop where
  nonempty : verbs ≠ []
  lead : IsUnmarked lead
  verbs : ∀ verb ∈ verbs, IsUnmarked verb

/-- What follows a verb in a list of verbs. -/
def afterVerb (lead : String) : List String → List Char
  | [] => []
  | verb :: rest => ',' :: ' ' :: (verbList lead (verb :: rest)).toList

theorem toList_verbList_cons (lead verb : String) (rest : List String) :
    (verbList lead (verb :: rest)).toList =
      '`' :: (lead.toList ++ verb.toList ++ '`' :: afterVerb lead rest) := by
  have hcode : (code (lead ++ verb)).toList = '`' :: (lead.toList ++ verb.toList ++ ['`']) := by
    simp [code]
  cases rest with
  | nil => rw [verbList, List.map_singleton, String.intercalate_singleton, hcode, afterVerb]
  | cons next rest =>
      have hseparator : ", ".toList = [',', ' '] := rfl
      rw [verbList, List.map_cons, String.intercalate_cons_of_ne_nil (by simp), String.toList_append,
        String.toList_append, hcode, hseparator]
      simp [afterVerb, verbList]

/-- The first verb of a list, and what follows it. -/
def readVerb? (lead : String) : List Char → Option (String × List Char)
  | '`' :: rest =>
      match splitAtFirst? '`' rest with
      | some (shown, after) =>
          (afterStart? lead.toList shown).map fun verb => (String.ofList verb, after)
      | none => none
  | _ => none

theorem readVerb?_eq_some_iff :
    readVerb? lead s = some (verb, after) ↔
      s = '`' :: (lead.toList ++ verb.toList ++ '`' :: after) ∧ IsUnmarked lead ∧
        IsUnmarked verb := by
  rw [IsUnmarked, IsUnmarked, ← not_or, ← List.mem_append]
  constructor
  · intro h
    unfold readVerb? at h
    split at h
    · split at h
      · next rest shown left hsplit =>
          obtain ⟨chars, hchars, heq⟩ := Option.map_eq_some_iff.1 h
          cases heq
          obtain ⟨rfl, hmark⟩ := splitAtFirst?_eq_some_iff.1 hsplit
          rw [afterStart?_eq_some_iff] at hchars
          rw [String.toList_ofList, ← hchars]
          exact ⟨rfl, hmark⟩
      · cases h
    · cases h
  · rintro ⟨rfl, hmark⟩
    rw [readVerb?, splitAtFirst?_eq_some_iff.2 ⟨rfl, hmark⟩]
    dsimp only
    rw [afterStart?_eq_some_iff.2 rfl, Option.map_some, String.ofList_toList]

/-- **The verbs that a list of verbs tells.** -/
def readVerbs? (lead : String) (s : List Char) : Option (List String) :=
  match _h : readVerb? lead s with
  | some (verb, []) => some [verb]
  | some (verb, ',' :: ' ' :: more) => (readVerbs? lead more).map (verb :: ·)
  | _ => none
termination_by s.length
decreasing_by
  obtain ⟨rfl, -⟩ := readVerb?_eq_some_iff.1 ‹readVerb? lead s = _›
  simp only [List.length_cons, List.length_append]
  omega

theorem readVerbs?_of_last (h : readVerb? lead s = some (verb, [])) :
    readVerbs? lead s = some [verb] := by
  rw [readVerbs?]
  split <;> simp_all

theorem readVerbs?_of_next {more : List Char}
    (h : readVerb? lead s = some (verb, ',' :: ' ' :: more)) :
    readVerbs? lead s = (readVerbs? lead more).map (verb :: ·) := by
  rw [readVerbs?]
  split <;> simp_all

/-- **The verbs are read from their list, and from nothing else.** -/
theorem readVerbs?_eq_some_iff :
    readVerbs? lead s = some verbs ↔
      s = (verbList lead verbs).toList ∧ IsTellable lead verbs := by
  constructor
  · intro h
    fun_induction readVerbs? lead s generalizing verbs with
    | case1 s verb hread =>
        cases h
        obtain ⟨rfl, hlead, hverb⟩ := readVerb?_eq_some_iff.1 hread
        refine ⟨(toList_verbList_cons lead verb []).symm, by simp, hlead, by simpa using hverb⟩
    | case2 s verb more hread ih =>
        obtain ⟨rest, hrest, rfl⟩ := Option.map_eq_some_iff.1 h
        obtain ⟨rfl, hlead, hverb⟩ := readVerb?_eq_some_iff.1 hread
        obtain ⟨rfl, htellable⟩ := ih hrest
        refine ⟨?_, by simp, hlead, List.forall_mem_cons.2 ⟨hverb, htellable.verbs⟩⟩
        obtain ⟨next, others, rfl⟩ := List.exists_cons_of_ne_nil htellable.nonempty
        rw [toList_verbList_cons lead verb, afterVerb]
    | case3 => cases h
  · rintro ⟨rfl, htellable⟩
    induction verbs with
    | nil => exact absurd rfl htellable.nonempty
    | cons verb rest ih =>
        obtain ⟨hverb, hothers⟩ := List.forall_mem_cons.1 htellable.verbs
        have hread := readVerb?_eq_some_iff.2
          ⟨toList_verbList_cons lead verb rest, htellable.lead, hverb⟩
        cases rest with
        | nil => exact readVerbs?_of_last hread
        | cons next rest =>
            rw [readVerbs?_of_next hread, ih ⟨by simp, htellable.lead, hothers⟩]
            rfl

/-! ### The heading above the verbs -/

theorem count_verbList (h : ∀ verb ∈ verbs, IsUnmarked verb) (hlead : IsUnmarked lead) :
    (verbList lead verbs).toList.count '`' = 2 * verbs.length := by
  induction verbs with
  | nil => rfl
  | cons verb rest ih =>
      obtain ⟨hverb, hrest⟩ := List.forall_mem_cons.1 h
      have hafter : (afterVerb lead rest).count '`' = 2 * rest.length := by
        rw [← ih hrest]
        cases rest with
        | nil => rfl
        | cons next rest => simp [afterVerb]
      simp only [toList_verbList_cons, List.count_cons, List.count_append, hafter,
        List.count_eq_zero.2 hlead, List.count_eq_zero.2 hverb, List.length_cons, beq_self_eq_true,
        if_true]
      omega

/-- A mark in a text is the one behind a word without marks, or it comes later. -/
theorem append_cons_cases {mark : Char} {front left word right : List Char} (hword : mark ∉ word)
    (h : front ++ mark :: left = word ++ mark :: right) :
    front = word ∧ left = right ∨
      ∃ part, front = word ++ mark :: part ∧ right = part ++ mark :: left := by
  rcases List.append_eq_append_iff.1 h with ⟨part, rfl, hpart⟩ | ⟨part, rfl, hpart⟩
  · cases part with
    | nil => exact .inl ⟨(List.append_nil _).symm, (List.cons.inj hpart).2⟩
    | cons c part =>
        rw [(List.cons.inj hpart).1] at hword
        exact absurd (List.mem_append_right _ List.mem_cons_self) hword
  · cases part with
    | nil => exact .inl ⟨List.append_nil _, (List.cons.inj hpart).2.symm⟩
    | cons c part =>
        obtain ⟨rfl, hright⟩ := List.cons.inj hpart
        exact .inr ⟨part, rfl, hright⟩

/-- A list begins with a mark, so it lies behind the separator that follows a verb. -/
theorem exists_of_afterVerb {part left : List Char}
    (h : afterVerb lead rest = part ++ '`' :: left) :
    ∃ inner, part = ',' :: ' ' :: inner ∧ (verbList lead rest).toList = inner ++ '`' :: left := by
  cases rest with
  | nil => simp [afterVerb] at h
  | cons next rest =>
      rw [afterVerb] at h
      match part, h with
      | [], h => cases h
      | [_], h => cases h
      | c :: d :: inner, h =>
          simp only [List.cons_append, List.cons.injEq] at h
          obtain ⟨rfl, rfl, hinner⟩ := h
          exact ⟨inner, rfl, hinner⟩

/-- **A list of verbs that ends another one begins behind a separator in it.**  It cannot begin with
the mark behind a verb, since it has an even number of marks. -/
theorem getLast?_of_append_verbList {front : List Char} {others : List String}
    (hverbs : IsTellable lead verbs) (hothers : ∀ verb ∈ others, IsUnmarked verb)
    (h : front ++ (verbList lead verbs).toList = (verbList lead others).toList) :
    front = [] ∨ front.getLast? = some ' ' := by
  obtain ⟨left, hlist⟩ : ∃ left, (verbList lead verbs).toList = '`' :: left := by
    obtain ⟨first, rest, rfl⟩ := List.exists_cons_of_ne_nil hverbs.nonempty
    exact ⟨_, toList_verbList_cons lead first rest⟩
  have hmarks := count_verbList hverbs.verbs hverbs.lead
  rw [hlist] at h hmarks
  induction others generalizing front with
  | nil => exact .inl (List.append_eq_nil_iff.1 h).1
  | cons verb rest ih =>
      obtain ⟨hverb, hrest⟩ := List.forall_mem_cons.1 hothers
      have hword : '`' ∉ lead.toList ++ verb.toList := by
        rw [List.mem_append]
        exact not_or.2 ⟨hverbs.lead, hverb⟩
      have hwhole := count_verbList hothers hverbs.lead
      rw [toList_verbList_cons] at h hwhole
      cases front with
      | nil => exact .inl rfl
      | cons c front =>
          rw [List.cons_append] at h
          rcases append_cons_cases hword (List.cons.inj h).2 with ⟨-, rfl⟩ | ⟨part, rfl, hpart⟩
          · rw [List.count_cons_self, List.count_append, List.count_eq_zero.2 hword, hmarks] at hwhole
            omega
          · obtain ⟨inner, rfl, hinner⟩ := exists_of_afterVerb hpart
            have hlast : inner.getLast?.getD ' ' = ' ' := by
              rcases ih hrest hinner.symm with rfl | hlast
              · rfl
              · rw [hlast, Option.getD_some]
            rw [← List.cons_append, List.getLast?_append, List.getLast?_cons, List.getLast?_cons,
              List.getLast?_cons, Option.getD_some, hlast]
            exact .inr rfl

/-- The heading above the verbs. -/
def verbsHeading : String := "\nVerbs:\n"

theorem getLast?_verbsHeading : verbsHeading.toList.getLast? = some '\n' := by decide

/-- **No list of verbs follows a heading that stands earlier.** -/
theorem readVerbs?_eq_none {front part : List Char} (hverbs : IsTellable lead verbs)
    (hfront : front ≠ [])
    (h : front ++ (verbsHeading.toList ++ (verbList lead verbs).toList) = verbsHeading.toList ++ part) :
    readVerbs? lead part = none := by
  rw [Option.eq_none_iff_forall_ne_some]
  intro others hothers
  obtain ⟨rfl, htellable⟩ := readVerbs?_eq_some_iff.1 hothers
  have hpos := List.length_pos_iff.2 hfront
  rw [← List.append_assoc] at h
  rcases List.append_eq_append_iff.1 h with ⟨middle, hlong, -⟩ | ⟨middle, hmiddle, hlist⟩
  · have hlength := congrArg List.length hlong
    simp only [List.length_append] at hlength
    omega
  · -- What is between the headings would end like a separator, and with the heading.
    rcases getLast?_of_append_verbList hverbs htellable.verbs hlist.symm with rfl | hlast
    · have hlength := congrArg List.length hmiddle
      simp only [List.length_append, List.length_nil] at hlength
      omega
    · have hend := congrArg List.getLast? hmiddle
      rw [List.getLast?_append, List.getLast?_append, hlast, getLast?_verbsHeading] at hend
      cases hend

/-- **The verbs that the details of a command tell**, below the first heading that a list of verbs
follows. -/
def findVerbs? (lead : String) : List Char → Option (List String)
  | [] => none
  | c :: rest =>
      ((afterStart? verbsHeading.toList (c :: rest)).bind (readVerbs? lead)).or (findVerbs? lead rest)

theorem findVerbs?_append (hverbs : IsTellable lead verbs) (front : List Char) :
    findVerbs? lead (front ++ (verbsHeading.toList ++ (verbList lead verbs).toList)) = some verbs := by
  have hread : readVerbs? lead (verbList lead verbs).toList = some verbs :=
    readVerbs?_eq_some_iff.2 ⟨rfl, hverbs⟩
  induction front with
  | nil =>
      rw [List.nil_append]
      cases htext : verbsHeading.toList ++ (verbList lead verbs).toList with
      | nil => exact absurd (List.append_eq_nil_iff.1 htext).1 (by decide)
      | cons c rest =>
          rw [findVerbs?, afterStart?_eq_some_iff.2 htext.symm, Option.bind_some, hread,
            Option.some_or]
  | cons c front ih =>
      rw [List.cons_append, findVerbs?, ih]
      cases hpart : afterStart? verbsHeading.toList
          (c :: (front ++ (verbsHeading.toList ++ (verbList lead verbs).toList))) with
      | none => rfl
      | some part =>
          rw [afterStart?_eq_some_iff] at hpart
          rw [Option.bind_some, readVerbs?_eq_none hverbs (List.cons_ne_nil c front) hpart]
          rfl

/-- The details of a command above its verbs. -/
def upperDetails (c : Command) (lead : String) : String :=
  "**" ++ c.name ++ "**\n" ++ c.description ++ "\n\nUsage:\n" ++ code (lead ++ c.usage)

theorem toList_details (c : Command) (lead : String) :
    (details c lead).toList =
      (upperDetails c lead).toList ++ (verbsHeading.toList ++ (verbList lead c.verbs).toList) := by
  have hdetails : details c lead = upperDetails c lead ++ verbsHeading ++ verbList lead c.verbs := rfl
  rw [hdetails, String.toList_append, String.toList_append, List.append_assoc]

/-- **The verbs are read from the details.** -/
theorem findVerbs?_details {c : Command} (h : IsTellable lead c.verbs) :
    findVerbs? lead (details c lead).toList = some c.verbs := by
  rw [toList_details, findVerbs?_append h]

end Verbs

/-! ### The help command -/

/-- **What the help command tells.**  Without an argument it shows the list of all commands: below a
fixed header two lines for each command, in their order, from which the names and usages are read,
so that another table with the same list has the same names and usages.  With a verb that some
command declares it shows the details of the one command that declares it, whichever of its verbs is
given, and from below the heading in them the verbs of this command are read, all and in order. -/
theorem help_tells_commands {commands : List Command} {registry : Registry}
    (hregistry : Registry.register commands = .ok registry) :
    (∀ lead : String, IsOneLine lead → (∀ c ∈ commands, IsTwoLines c) →
      lines (listing registry lead) = headerLines ++ commands.flatMap (entryLines lead) ++ [""] ∧
      readListing? lead (listing registry lead) = some (commands.map fun c => (c.name, c.usage)) ∧
      ∀ others otherRegistry, Registry.register others = .ok otherRegistry →
        (∀ c ∈ others, IsTwoLines c) → listing otherRegistry lead = listing registry lead →
          others.map (fun c => (c.name, c.usage)) = commands.map fun c => (c.name, c.usage)) ∧
    ∀ ctx : Context, ctx.registry = registry →
      Action.perform .help [] ctx =
        Task.ok (.ofText (listing registry ctx.settings.commandPrefix)) ∧
      ∀ verb ∈ commands.flatMap Command.verbs, ∃ (i : Nat) (c : Command),
        commands[i]? = some c ∧ verb ∈ c.verbs ∧
        (∀ (j : Nat) (d : Command), commands[j]? = some d → verb ∈ d.verbs → j = i) ∧
        (∀ other ∈ c.verbs, ∀ more, Action.perform .help (other :: more) ctx =
          Task.ok (.ofText (details c ctx.settings.commandPrefix))) ∧
        (IsUnmarked ctx.settings.commandPrefix → (∀ v ∈ c.verbs, IsUnmarked v) →
          findVerbs? ctx.settings.commandPrefix (details c ctx.settings.commandPrefix).toList =
            some c.verbs) := by
  have hgood := Registry.exists_register_iff.1 ⟨registry, hregistry⟩
  obtain rfl := Registry.commands_of_register hregistry
  constructor
  · intro lead hlead hcommands
    refine ⟨lines_listing hlead hcommands, readListing?_listing hlead hcommands, ?_⟩
    intro others otherRegistry hother hothers hsame
    obtain rfl := Registry.commands_of_register hother
    have hread := readListing?_listing hlead hothers
    rw [hsame, readListing?_listing hlead hcommands] at hread
    exact (Option.some.inj hread).symm
  · rintro ctx rfl
    refine ⟨rfl, fun verb hverb => ?_⟩
    obtain ⟨c, hc, hdeclared⟩ := List.mem_flatMap.1 hverb
    obtain ⟨i, hi⟩ := List.getElem?_of_mem hc
    refine ⟨i, c, hi, hdeclared, fun j d hj hd => Registry.position_unique hj hi hd hdeclared, ?_, ?_⟩
    · intro other hother more
      have hresolve := Registry.resolve?_eq_some_iff_mem.2 ⟨hc, hother⟩
      rw [Action.perform, Action.explain, hresolve]
    · intro hlead hverbs
      exact findVerbs?_details ⟨hgood.invocable c hc, hlead, hverbs⟩

/-- Commands of one name, of which the first has a description and a verb like the heading. -/
def lookalikes : List Command :=
  [⟨"A", ["a", "\nVerbs:\n"], "\nVerbs:\n`!b`", "a [b]", false, .help⟩,
    ⟨"A", ["ab"], "", "", false, .ping⟩]

/-- Someone asks for help where some commands are registered. -/
def askingForHelp (registry : Registry) : Context where
  settings := ⟨"t", "!", true, true, none, none, none, "assets"⟩
  registry := registry
  author := ⟨1, "ann", false⟩
  channel := ⟨10, none, false⟩
  mentions := []
  hasStore := false
  now := .epoch
  draw := 0

theorem help_tells_commands_lookalikes :
    ∃ registry, Registry.register lookalikes = .ok registry ∧ IsOneLine "!" ∧
      (∀ c ∈ lookalikes, IsTwoLines c) ∧
      readListing? "!" (listing registry "!") = some [("A", "a [b]"), ("A", "")] ∧
      ∃ c ∈ lookalikes,
        Action.perform .help ["a"] (askingForHelp registry) = Task.ok (.ofText (details c "!")) ∧
        findVerbs? "!" (details c "!").toList = some ["a", "\nVerbs:\n"] := by
  obtain ⟨registry, hregistry⟩ : ∃ registry, Registry.register lookalikes = .ok registry :=
    Registry.exists_register_iff.2
      ⟨by decide, ⟨by simp [Registry.Routable, Registry.verbsOf, lookalikes], by decide⟩⟩
  obtain ⟨hlisting, hhelp⟩ := help_tells_commands hregistry
  obtain ⟨-, hread, -⟩ := hlisting "!" (by decide) (by decide)
  obtain ⟨-, hverb⟩ := hhelp (askingForHelp registry) rfl
  obtain ⟨i, c, hc, hmem, -, hshown, hfound⟩ := hverb "a" (by decide)
  have hmember := List.mem_of_getElem? hc
  have hall : ∀ d ∈ lookalikes, "a" ∈ d.verbs → d.verbs = ["a", "\nVerbs:\n"] := by decide
  have hverbs : c.verbs = ["a", "\nVerbs:\n"] := hall c hmember hmem
  rw [hverbs] at hshown hfound
  have hlead : IsUnmarked "!" := by decide
  exact ⟨registry, hregistry, by decide, by decide, hread, c, hmember, hshown "a" (by simp) [],
    hfound hlead (by decide)⟩

end CommandBot.Help
