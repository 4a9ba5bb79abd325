/-
**Files that stop a start.**

Of a settings file, lines that say nothing are passed over: blank ones, comments, and lines without a
sign of equality.  A line with a sign of equality is written into the environment whatever stands
before the sign.  The environment takes no variable without a name and no NUL, so a line that begins
with the sign, and one with a NUL in it, stops the start.  No other file does, and what is in the
environment already makes no difference.

Main definitions:

* `CommandBot.Settings.Stops` — **the lines that stop a start.**

Main results:

* `CommandBot.Settings.stops_iff` — a line stops a start exactly if the environment does not take
  what it says;
* `CommandBot.Settings.exportAll_eq_error_iff` — the first such line does;
* `CommandBot.Settings.load_stops_iff` — **the starts that are stopped**;
* `CommandBot.Settings.load_stops_unnamed` — a value without a name stops one.
-/

import CommandBot.Proofs.Settings.Loading

set_option relaxedAutoImplicit false
set_option autoImplicit false

namespace CommandBot.Settings

open Text (isSpace splitAtFirst? trimChars trimStartChars)

/-- **The lines that stop a start.**  They have a sign of equality, and no comment sign stands before
all else. -/
inductive Stops : List Char → Prop where
  /-- Before the first sign of equality there is no visible character. -/
  | unnamed {before after : List Char} (h : ∀ c ∈ before, isSpace c = true) :
      Stops (before ++ '=' :: after)
  /-- There is a NUL on either side of the first sign of equality. -/
  | nul {before after : List Char} (hfirst : '=' ∉ before)
      (hsetting : (trimStartChars before).head? ≠ some '#') (h : '\x00' ∈ before ++ after) :
      Stops (before ++ '=' :: after)

/-! ### What a line says -/

section Lines

variable {line before after : List Char}

theorem isExportable_eq_false_iff {name value : List Char} :
    isExportable (String.ofList name) (String.ofList value) = false ↔
      name = [] ∨ '=' ∈ name ∨ '\x00' ∈ name ∨ '\x00' ∈ value := by
  simp [isExportable, Classical.or_iff_not_imp_left]

/-- **A line stops a start exactly if the environment does not take what it says.** -/
theorem stops_iff :
    Stops line ↔
      ∃ setting, readLine? line = some setting ∧ isExportable setting.1 setting.2 = false := by
  have hnul : ∀ s, '\x00' ∈ trimChars s ↔ '\x00' ∈ s := fun s => Text.mem_trimChars_iff (by decide)
  constructor
  · rintro (@⟨before, after, h⟩ | @⟨before, after, hfirst, hsetting, h⟩)
    · have hfirst : '=' ∉ before := fun hmem => absurd (h '=' hmem) (by decide)
      have hnone : ¬ (trimStartChars before).head? = some '#' := by
        rw [Text.trimStartChars_of_forall h]
        exact nofun
      rw [readLine?_of_split (Text.splitAtFirst?_eq_some_iff.2 ⟨rfl, hfirst⟩), if_neg hnone]
      exact ⟨_, rfl, isExportable_eq_false_iff.2 (.inl (Text.trimChars_eq_nil_iff.2 h))⟩
    · rw [readLine?_of_split (Text.splitAtFirst?_eq_some_iff.2 ⟨rfl, hfirst⟩), if_neg hsetting]
      refine ⟨_, rfl, isExportable_eq_false_iff.2 (.inr (.inr ?_))⟩
      rwa [hnul, hnul, ← List.mem_append]
  · rintro ⟨setting, hread, hrefused⟩
    cases hsplit : splitAtFirst? '=' line with
    | none =>
        rw [readLine?_of_not_mem (Text.splitAtFirst?_eq_none_iff.1 hsplit)] at hread
        cases hread
    | some parts =>
        obtain ⟨before, after⟩ := parts
        obtain ⟨rfl, hfirst⟩ := Text.splitAtFirst?_eq_some_iff.1 hsplit
        rw [readLine?_of_split hsplit] at hread
        split at hread
        · cases hread
        · next hsetting =>
            cases hread
            rcases isExportable_eq_false_iff.1 hrefused with h | h | h
            · exact .unnamed (Text.trimChars_eq_nil_iff.1 h)
            · exact absurd (Text.mem_of_mem_trimChars h) hfirst
            · rw [hnul, hnul, ← List.mem_append] at h
              exact .nul hfirst hsetting h

end Lines

/-! ### The first line that is not taken -/

/-- **The first line that stops a start**, with what it says. -/
inductive FirstStop (refused : UnexportableVariable) : List (List Char) → Prop where
  | here {line : List Char} {rest : List (List Char)} (h : Stops line)
      (hread : readLine? line = some (refused.name, refused.value)) :
      FirstStop refused (line :: rest)
  | later {line : List Char} {rest : List (List Char)} (h : ¬ Stops line)
      (hrest : FirstStop refused rest) : FirstStop refused (line :: rest)

section First

variable {refused : UnexportableVariable} {line : List Char} {rest lines : List (List Char)}
  {env : Environment}

theorem firstStop_cons_iff :
    FirstStop refused (line :: rest) ↔
      Stops line ∧ readLine? line = some (refused.name, refused.value) ∨
        ¬ Stops line ∧ FirstStop refused rest := by
  constructor
  · rintro (⟨h, hread⟩ | ⟨h, hrest⟩)
    · exact .inl ⟨h, hread⟩
    · exact .inr ⟨h, hrest⟩
  · rintro (⟨h, hread⟩ | ⟨h, hrest⟩)
    · exact .here h hread
    · exact .later h hrest

/-- If some line stops a start, some line is the first one. -/
theorem exists_firstStop_iff : (∃ refused, FirstStop refused lines) ↔ ∃ line ∈ lines, Stops line := by
  induction lines with
  | nil => exact ⟨nofun, nofun⟩
  | cons line rest ih =>
      simp only [firstStop_cons_iff]
      by_cases h : Stops line
      · obtain ⟨⟨name, value⟩, hread, -⟩ := stops_iff.1 h
        exact iff_of_true ⟨⟨name, value⟩, .inl ⟨h, hread⟩⟩ ⟨line, List.mem_cons_self, h⟩
      · simpa [h] using ih

/-- **The first line that stops a start is the one that is refused.** -/
theorem exportAll_eq_error_iff :
    exportAll env (lines.filterMap readLine?) = .error refused ↔ FirstStop refused lines := by
  induction lines generalizing env with
  | nil => exact ⟨nofun, nofun⟩
  | cons line rest ih =>
      rw [firstStop_cons_iff, stops_iff, List.filterMap_cons]
      cases hread : readLine? line with
      | none => simp [ih]
      | some setting =>
          obtain ⟨name, value⟩ := setting
          simp only [exportAll, Option.some.injEq, exists_eq_left', Prod.mk.injEq]
          cases htaken : isExportable name value with
          | true => simp [ih]
          | false =>
              obtain ⟨refusedName, refusedValue⟩ := refused
              simp

end First

/-! ### Starts -/

/-- The lines of a file. -/
def fileLines (content : String) : List (List Char) :=
  (Text.dropMark content.toList).splitOn '\n'

section Starts

variable {files : FileTree} {env : Environment}

/-- **A start is stopped by a line of the file that is used.** -/
theorem load_eq_error_iff {refused : UnexportableVariable} :
    load files env = .error refused ↔
      ∃ path content, IsSource files path content ∧ FirstStop refused (fileLines content) := by
  obtain ⟨source, settings, h⟩ := exists_finds files
  cases h with
  | nothing h =>
      have hload : load files env = .ok ⟨none, env⟩ := by
        rw [load, findFile?_of_forall h]
      rw [hload]
      constructor
      · rintro ⟨⟩
      · rintro ⟨path, content, hsource, -⟩
        have hfound := findFile?_of_isSource hsource
        rw [findFile?_of_forall h] at hfound
        cases hfound
  | @file path content hsource =>
      have hload : load files env = .error refused ↔ FirstStop refused (fileLines content) := by
        have hlines : readLines content = (fileLines content).filterMap readLine? := rfl
        rw [load, findFile?_of_isSource hsource]
        dsimp only
        rw [hlines, ← @exportAll_eq_error_iff refused _ env]
        cases exportAll env ((fileLines content).filterMap readLine?) with
        | ok env => simp
        | error refused' => simp
      rw [hload]
      constructor
      · intro hfirst
        exact ⟨path, content, hsource, hfirst⟩
      · rintro ⟨path', content', hsource', hfirst⟩
        -- Only one file is used.
        cases (findFile?_of_isSource hsource).symm.trans (findFile?_of_isSource hsource')
        exact hfirst

/-- **The starts that are stopped.**  A start comes to its end, in any environment, exactly if no
line of the file that is used stops it; otherwise the first such line is the one that is
reported. -/
theorem load_stops_iff (files : FileTree) (env : Environment) :
    ((∃ loaded, load files env = .ok loaded) ↔
      ∀ path content, IsSource files path content → ∀ line ∈ fileLines content, ¬ Stops line) ∧
    ∀ refused, load files env = .error refused ↔
      ∃ path content, IsSource files path content ∧ FirstStop refused (fileLines content) := by
  refine ⟨?_, fun refused => load_eq_error_iff⟩
  have hends : (∃ loaded, load files env = .ok loaded) ↔
      ¬ ∃ refused, load files env = .error refused := by
    cases load files env with
    | ok loaded => simp
    | error refused => simp
  rw [hends]
  simp only [load_eq_error_iff]
  constructor
  · intro hnone path content hsource line hline hstops
    obtain ⟨refused, hfirst⟩ := exists_firstStop_iff.2 ⟨line, hline, hstops⟩
    exact hnone ⟨refused, path, content, hsource, hfirst⟩
  · rintro hall ⟨refused, path, content, hsource, hfirst⟩
    obtain ⟨line, hline, hstops⟩ := exists_firstStop_iff.1 ⟨refused, hfirst⟩
    exact hall path content hsource line hline hstops

end Starts

/-- A file with a value that has no name. -/
def unnamedValue : FileTree :=
  FileTree.empty.add "botconfig.txt" (.file (Text.Utf8.bytes "=x\n".toList))

/-- **A value without a name stops a start**, though a line that is no setting should be passed
over. -/
theorem load_stops_unnamed :
    ¬ ∀ (files : FileTree) (env : Environment), ∃ loaded, load files env = .ok loaded := by
  intro h
  obtain ⟨loaded, hloaded⟩ := h unnamedValue .empty
  have hrefused : load unnamedValue .empty = .error ⟨"", "x"⟩ := by decide +kernel
  rw [hrefused] at hloaded
  cases hloaded

end CommandBot.Settings
