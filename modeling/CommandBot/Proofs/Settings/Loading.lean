/-
**The settings file goes before the environment.**

The first of the four places that holds a readable text gives the settings; the others are not looked
at.  What the last line for a name says goes before what was in the environment, even if it is
blank, and all other variables stay as they were.  So a file with a line for every name leaves
nothing to the environment, and a file in which settings were written down gives those settings
back in any environment.

Main definitions:

* `CommandBot.Settings.IsSource` — the file that is used;
* `CommandBot.Settings.Finds` — the settings that the files give, and from where;
* `CommandBot.Settings.IsOverlay` — a lookup in which some settings go before another lookup;
* `CommandBot.Settings.IsRecord` — the ways to write settings down.

Main results:

* `CommandBot.Settings.exists_finds` — every tree of files gives some settings, maybe none;
* `CommandBot.Settings.load_of_finds` — **what a start leaves in the environment**;
* `CommandBot.Settings.mem_readLines_of_isRecord` — a record is read as it was written, and the
  environment takes it;
* `CommandBot.Settings.load_file_wins` — **the file goes before the environment.**
-/

import CommandBot.Proofs.Settings.Lines
import CommandBot.Proofs.Settings.Values
import CommandBot.Settings.File

set_option relaxedAutoImplicit false
set_option autoImplicit false

namespace CommandBot.Settings

open Text (isSpace)

/-! ### The file that is used -/

/-- **The file that is used**: the first of the four that holds a readable text. -/
def IsSource (files : FileTree) (path content : String) : Prop :=
  ∃ before after, filePaths = before ++ path :: after ∧
    (∀ p ∈ before, files.readText? p = none) ∧ files.readText? path = some content

/-- The settings that the files give, and from where. -/
inductive Finds (files : FileTree) : Option String → List (String × String) → Prop where
  | nothing (h : ∀ path ∈ filePaths, files.readText? path = none) : Finds files none []
  | file {path content : String} (h : IsSource files path content) :
      Finds files (some path) (readLines content)

section Source

variable {files : FileTree} {path content : String} {source : Option String}
  {settings : List (String × String)}

theorem findFile?_append {before rest : List String}
    (h : ∀ p ∈ before, files.readText? p = none) :
    findFile? files (before ++ rest) = findFile? files rest := by
  induction before with
  | nil => rfl
  | cons p before ih =>
      rw [List.cons_append, findFile?, h p List.mem_cons_self]
      exact ih fun p hp => h p (List.mem_cons_of_mem _ hp)

theorem findFile?_of_isSource (h : IsSource files path content) :
    findFile? files filePaths = some (path, content) := by
  obtain ⟨before, after, hpaths, hbefore, hread⟩ := h
  rw [hpaths, findFile?_append hbefore, findFile?, hread]

theorem findFile?_of_forall {paths : List String} (h : ∀ p ∈ paths, files.readText? p = none) :
    findFile? files paths = none := by
  rw [← List.append_nil paths, findFile?_append h]
  rfl

/-- Some file of a list is the first readable one, or none is readable. -/
theorem exists_first_readable (files : FileTree) (paths : List String) :
    (∀ p ∈ paths, files.readText? p = none) ∨
      ∃ before path after content, paths = before ++ path :: after ∧
        (∀ p ∈ before, files.readText? p = none) ∧ files.readText? path = some content := by
  induction paths with
  | nil => exact .inl nofun
  | cons p paths ih =>
      cases hread : files.readText? p with
      | some content => exact .inr ⟨[], p, paths, content, rfl, nofun, hread⟩
      | none =>
          rcases ih with h | ⟨before, path, after, content, rfl, hbefore, hpath⟩
          · exact .inl (List.forall_mem_cons.2 ⟨hread, h⟩)
          · exact .inr ⟨p :: before, path, after, content, rfl,
              List.forall_mem_cons.2 ⟨hread, hbefore⟩, hpath⟩

/-- **Every tree of files gives some settings**, maybe none. -/
theorem exists_finds (files : FileTree) : ∃ source settings, Finds files source settings := by
  rcases exists_first_readable files filePaths with h | ⟨before, path, after, content, h⟩
  · exact ⟨_, _, .nothing h⟩
  · exact ⟨_, _, .file ⟨before, after, h⟩⟩

/-! ### The environment -/

/-- A setting that the environment takes. -/
structure IsAdmitted (setting : String × String) : Prop where
  named : setting.1 ≠ ""
  name : '\x00' ∉ setting.1.toList
  value : '\x00' ∉ setting.2.toList

/-- The name of a setting that was read holds no sign of equality. -/
theorem undivided_of_mem_readChars {s : List Char} {setting : String × String}
    (h : setting ∈ readChars s) : '=' ∉ setting.1.toList := by
  obtain ⟨line, -, hline⟩ := List.mem_filterMap.1 h
  unfold readLine? readTrimmed? at hline
  split at hline
  · cases hline
  · obtain ⟨⟨before, after⟩, hsplit, rfl⟩ := Option.map_eq_some_iff.1 hline
    obtain ⟨-, hbefore⟩ := Text.splitAtFirst?_eq_some_iff.1 hsplit
    rw [String.toList_ofList]
    exact fun hmem => hbefore (Text.mem_of_mem_trimChars hmem)

theorem Finds.undivided (h : Finds files source settings) :
    ∀ setting ∈ settings, '=' ∉ setting.1.toList := by
  cases h with
  | nothing => exact nofun
  | file h => exact fun setting hsetting => undivided_of_mem_readChars hsetting

theorem isExportable_of_isAdmitted {setting : String × String} (h : IsAdmitted setting)
    (hname : '=' ∉ setting.1.toList) : isExportable setting.1 setting.2 = true := by
  simp [isExportable, h.named, h.name, h.value, hname]

/-- Variables that the environment takes are all written, in order. -/
theorem exportAll_eq {env : Environment}
    (h : ∀ setting ∈ settings, isExportable setting.1 setting.2 = true) :
    exportAll env settings = .ok (env.setAll settings) := by
  induction settings generalizing env with
  | nil => rfl
  | cons setting settings ih =>
      rw [exportAll, if_pos (h setting List.mem_cons_self),
        ih fun s hs => h s (List.mem_cons_of_mem _ hs)]
      rfl

/-- **What a start leaves in the environment**: the settings of the file that is used, written over
what was there. -/
theorem load_of_finds (h : Finds files source settings)
    (hadmitted : ∀ setting ∈ settings, IsAdmitted setting) (env : Environment) :
    load files env = .ok ⟨source, env.setAll settings⟩ := by
  have hexport : exportAll env settings = .ok (env.setAll settings) :=
    exportAll_eq fun setting hsetting =>
      isExportable_of_isAdmitted (hadmitted setting hsetting) (h.undivided setting hsetting)
  cases h with
  | nothing h =>
      rw [load, findFile?_of_forall h]
      rfl
  | file h =>
      rw [load, findFile?_of_isSource h]
      dsimp only
      rw [hexport]

end Source

/-! ### Settings that go before others -/

/-- The last of some settings under a name has a value. -/
def LastSays (settings : List (String × String)) (name value : String) : Prop :=
  ∃ before after, settings = before ++ (name, value) :: after ∧
    ∀ setting ∈ after, setting.1 ≠ name

/-- **A lookup in which some settings go before another lookup.** -/
structure IsOverlay (settings : List (String × String)) (old new : String → Option String) :
    Prop where
  last : ∀ name value, LastSays settings name value → new name = some value
  other : ∀ name, (∀ setting ∈ settings, setting.1 ≠ name) → new name = old name

section Overlay

variable {settings : List (String × String)} {old new new' : String → Option String}

/-- Either some setting is the last one under a name, or there is none. -/
theorem exists_lastSays_or (settings : List (String × String)) (name : String) :
    (∃ value, LastSays settings name value) ∨ ∀ setting ∈ settings, setting.1 ≠ name := by
  induction settings with
  | nil => exact .inr nofun
  | cons setting settings ih =>
      -- A later setting under the name goes before this one.
      obtain ⟨other, value⟩ := setting
      rcases ih with ⟨value', before, after, rfl, hafter⟩ | h
      · exact .inl ⟨value', (other, value) :: before, after, rfl, hafter⟩
      · by_cases hname : other = name
        · subst hname
          exact .inl ⟨value, [], settings, rfl, h⟩
        · exact .inr (List.forall_mem_cons.2 ⟨hname, h⟩)

theorem LastSays.mem {name value : String} (h : LastSays settings name value) :
    (name, value) ∈ settings := by
  obtain ⟨before, after, rfl, -⟩ := h
  exact List.mem_append_cons_self

/-- A name that occurs has a last value. -/
theorem exists_lastSays {name value : String} (h : (name, value) ∈ settings) :
    ∃ value, LastSays settings name value :=
  (exists_lastSays_or settings name).resolve_right fun hnone => hnone _ h rfl

/-- There is one such lookup only. -/
theorem IsOverlay.unique (h : IsOverlay settings old new) (h' : IsOverlay settings old new') :
    new = new' := by
  funext name
  rcases exists_lastSays_or settings name with ⟨value, hlast⟩ | hnone
  · rw [h.last name value hlast, h'.last name value hlast]
  · rw [h.other name hnone, h'.other name hnone]

theorem isOverlay_setAll (settings : List (String × String)) (env : Environment) :
    IsOverlay settings env.get? (env.setAll settings).get? := by
  refine ⟨?_, fun name hnone => Table.get?_setAll_of_forall_ne hnone⟩
  rintro name value ⟨before, after, rfl, hafter⟩
  exact Table.get?_setAll_of_last hafter

end Overlay

/-! ### Settings that are written down -/

/-- No value of the settings holds a line end or a NUL. -/
def IsPlain (s : Settings) : Prop :=
  ∀ name value, s.lookup name = some value → '\n' ∉ value.toList ∧ '\x00' ∉ value.toList

/-- **The ways to write settings down**: a line for each name, in any order, and whatever a file may
hold besides. -/
def IsRecord (s : Settings) (content : String) : Prop :=
  ∃ settings : List (String × String), (settings.map Prod.fst).Perm names ∧
    (∀ setting ∈ settings, Spells s setting.1 setting.2) ∧ IsFile settings content.toList

section Record

variable {s : Settings} {name value content : String}

theorem isName_of_mem_names (h : name ∈ names) : IsName name.toList := by
  have hall : ∀ name ∈ names, name.toList ≠ [] ∧ '=' ∉ name.toList ∧ '\n' ∉ name.toList ∧
      name.toList.head? ≠ some '#' ∧ name.toList.head? ≠ some Text.byteOrderMark ∧
      (name.toList.all fun c => !isSpace c) = true := by decide
  obtain ⟨hnonempty, hundivided, hline, hcomment, hmark, hspace⟩ := hall name h
  exact ⟨hnonempty, hundivided, hline, hcomment, hmark, Text.isTrimmed_of_all hspace⟩

/-- A value that stands for settings that can be used is trimmed, and holds neither a line end nor
a NUL if they do not. -/
theorem isValue_of_spells (hs : IsUsable s) (hplain : IsPlain s) (h : Spells s name value) :
    IsValue value.toList ∧ '\x00' ∉ value.toList := by
  have hswitch : ∀ {on}, SpellsSwitch on value →
      IsValue value.toList ∧ '\x00' ∉ value.toList := by
    intro on hword
    refine ⟨⟨?_, hword.isProper.trimmed⟩, fun hnul => (hword.of_mem hnul).2 rfl⟩
    intro hend
    exact absurd (hword.of_mem hend).1 (by decide)
  unfold Spells at h
  split at h
  · exact hswitch h
  · split at h
    · exact hswitch h
    · subst h
      cases hlookup : s.lookup name with
      | none => exact ⟨⟨nofun, Text.isTrimmed_of_forall nofun⟩, nofun⟩
      | some value =>
          obtain ⟨hend, hnul⟩ := hplain name value hlookup
          exact ⟨⟨hend, (hs.isProper_of_lookup hlookup).trimmed⟩, hnul⟩

/-- **A record is read as it was written**, and the environment takes it. -/
theorem mem_readLines_of_isRecord (hs : IsUsable s) (hplain : IsPlain s) (h : IsRecord s content) :
    (∀ name ∈ names, ∃ value, (name, value) ∈ readLines content) ∧
      ∀ setting ∈ readLines content, IsAdmitted setting ∧ Spells s setting.1 setting.2 := by
  obtain ⟨settings, hperm, hspells, hfile⟩ := h
  have hname : ∀ setting ∈ settings, setting.1 ∈ names := fun setting hsetting =>
    hperm.mem_iff.1 (List.mem_map_of_mem hsetting)
  have hvalue : ∀ setting ∈ settings,
      IsValue setting.2.toList ∧ '\x00' ∉ setting.2.toList := fun setting hsetting =>
    isValue_of_spells hs hplain (hspells setting hsetting)
  have hread : readLines content = settings :=
    readChars_of_isFile hfile fun setting hsetting =>
      ⟨isName_of_mem_names (hname setting hsetting), (hvalue setting hsetting).1⟩
  rw [hread]
  constructor
  · intro name hmem
    obtain ⟨⟨_, value⟩, hsetting, rfl⟩ := List.mem_map.1 (hperm.mem_iff.2 hmem)
    exact ⟨value, hsetting⟩
  · intro setting hsetting
    have hadmitted : ∀ name ∈ names, name ≠ "" ∧ '\x00' ∉ name.toList := by decide
    obtain ⟨hnamed, hnul⟩ := hadmitted setting.1 (hname setting hsetting)
    exact ⟨⟨hnamed, hnul, (hvalue setting hsetting).2⟩, hspells setting hsetting⟩

end Record

/-! ### All together -/

section Loading

variable {settings : List (String × String)} {old old' new new' : String → Option String}
  {s : Settings}

/-- Settings with a value for every name leave nothing to another lookup. -/
theorem ofLookup_eq_of_isOverlay (hall : ∀ name ∈ names, ∃ value, (name, value) ∈ settings)
    (h : IsOverlay settings old new) (h' : IsOverlay settings old' new') :
    ofLookup new = ofLookup new' := by
  refine ofLookup_congr fun name hname => ?_
  obtain ⟨_, hmem⟩ := hall name hname
  obtain ⟨value, hlast⟩ := exists_lastSays hmem
  rw [h.last name value hlast, h'.last name value hlast]

/-- Settings that go before another lookup, in a spelling of each of them. -/
theorem ofLookup_of_isOverlay (hs : IsUsable s)
    (hall : ∀ name ∈ names, ∃ value, (name, value) ∈ settings)
    (hspells : ∀ setting ∈ settings, Spells s setting.1 setting.2)
    (h : IsOverlay settings old new) : ofLookup new = .ok s := by
  refine ofLookup_of_spells hs fun name hname => ?_
  obtain ⟨_, hmem⟩ := hall name hname
  obtain ⟨value, hlast⟩ := exists_lastSays hmem
  rw [h.last name value hlast]
  exact hspells _ hlast.mem

/-- **The file goes before the environment.**  If the environment takes what the files give, it holds
after the start the last value of every name in the file, and what it held before under all other
names, and the settings are those of this lookup.  If the file has a line for every name, they, or
the error, are the same in every environment.  And settings that can be used, written down in any
way in the file that is used, are read back in any environment. -/
theorem load_file_wins (files : FileTree) :
    (∃ source settings, Finds files source settings) ∧
    (∀ source settings, Finds files source settings →
      (∀ setting ∈ settings, IsAdmitted setting) →
      (∀ env, ∃ env', load files env = .ok ⟨source, env'⟩ ∧
        IsOverlay settings env.get? env'.get? ∧
        ∀ merged, IsOverlay settings env.get? merged → ofEnvironment env' = ofLookup merged) ∧
      ((∀ name ∈ names, ∃ value, (name, value) ∈ settings) →
        ∃ result, ∀ env, ∃ env', load files env = .ok ⟨source, env'⟩ ∧
          ofEnvironment env' = result)) ∧
    ∀ lookup s, ofLookup lookup = .ok s → IsPlain s →
      ∀ path content, IsRecord s content → IsSource files path content →
        ∀ env, ∃ env', load files env = .ok ⟨some path, env'⟩ ∧ ofEnvironment env' = .ok s := by
  refine ⟨exists_finds files, ?_, ?_⟩
  · intro source settings hfinds hadmitted
    have hload := load_of_finds hfinds hadmitted
    constructor
    · intro env
      have hoverlay := isOverlay_setAll settings env
      refine ⟨_, hload env, hoverlay, fun merged hmerged => ?_⟩
      rw [ofEnvironment, hoverlay.unique hmerged]
    · intro hall
      refine ⟨ofEnvironment (Table.empty.setAll settings), fun env => ⟨_, hload env, ?_⟩⟩
      exact ofLookup_eq_of_isOverlay hall (isOverlay_setAll settings env)
        (isOverlay_setAll settings Table.empty)
  · intro lookup s hs hplain path content hrecord hsource env
    have husable := isUsable_of_ofLookup hs
    obtain ⟨hall, hmem⟩ := mem_readLines_of_isRecord husable hplain hrecord
    refine ⟨_, load_of_finds (.file hsource) (fun setting hsetting => (hmem setting hsetting).1) env,
      ?_⟩
    exact ofLookup_of_isOverlay husable hall (fun setting hsetting => (hmem setting hsetting).2)
      (isOverlay_setAll _ env)

end Loading

/-! ### A record in the second place -/

/-- Settings without a store. -/
def recorded : Settings := ⟨"a=b#c", "!", false, true, none, none, none, "my files"⟩

/-- One way to write them down: with a byte order mark, a comment and both kinds of line end. -/
def recordText : String :=
  "\ufeff# bot\r\nDISCORD_AUTH_TOKEN = a=b#c\r\n\nSILLY_COMMANDS=YES\nCOMMAND_PREFIX=!\r\n" ++
  "DEBUG_OUTPUT=oFF\nREDIS_URL=\nREDIS_PASSWORD=\nDERPI_API_KEY= \nASSETS_DIR=my files"

/-- In the first place lies a file that holds no text, in the second one the record. -/
def twoFiles : FileTree :=
  (FileTree.empty.add "botconfig.txt" (.file [0xFF])).add "../botconfig.txt"
    (.file (Text.Utf8.bytes recordText.toList))

/-- An environment with other settings. -/
def staleEnvironment : Environment :=
  ⟨[("DISCORD_AUTH_TOKEN", "old"), ("REDIS_URL", "redis://old"), ("HOME", "/bot")]⟩

theorem isRecord_recordText : IsRecord recorded recordText := by
  have hblank : IsPadding [] := nofun
  have hspace : IsPadding [' '] := by decide
  have plainLine := fun name value : String => IsLine.setting name value hblank hblank hblank hblank
  have htext :=
    IsText.line (@IsLine.comment [] " bot".toList hblank (by decide)) (.inr rfl) <|
    .line (.setting "DISCORD_AUTH_TOKEN" "a=b#c" hblank hspace hspace hblank) (.inr rfl) <|
    .line (@IsLine.plain [] nofun nofun) (.inl rfl) <|
    .line (plainLine "SILLY_COMMANDS" "YES") (.inl rfl) <|
    .line (plainLine "COMMAND_PREFIX" "!") (.inr rfl) <|
    .line (plainLine "DEBUG_OUTPUT" "oFF") (.inl rfl) <|
    .line (plainLine "REDIS_URL" "") (.inl rfl) <|
    .line (plainLine "REDIS_PASSWORD" "") (.inl rfl) <|
    .line (.setting "DERPI_API_KEY" "" hblank hblank hspace hblank) (.inl rfl) <|
    .last (plainLine "ASSETS_DIR" "my files")
  have hon : SpellsSwitch true "YES" := ⟨"yes", by decide, by simp [IsLetter]⟩
  have hoff : SpellsSwitch false "oFF" := ⟨"off", by decide, by simp [IsLetter]⟩
  refine ⟨_, ?_, ?_, _, htext, .inr ?_⟩
  · decide
  · intro setting hsetting
    simp only [Option.toList, List.nil_append, List.cons_append, List.mem_cons, List.not_mem_nil,
      or_false] at hsetting
    rcases hsetting with rfl | rfl | rfl | rfl | rfl | rfl | rfl | rfl
    · rfl
    · exact hon
    · rfl
    · exact hoff
    · rfl
    · rfl
    · rfl
    · rfl
  · decide +kernel

theorem isPlain_recorded : IsPlain recorded := by
  intro name value h
  have hvalue : value ∈ ["a=b#c", "!", "false", "true", "my files"] := by
    unfold lookup at h
    repeat' split at h
    all_goals cases h
    all_goals decide
  have hall : ∀ value ∈ ["a=b#c", "!", "false", "true", "my files"],
      '\n' ∉ value.toList ∧ '\x00' ∉ value.toList := by decide
  exact hall value hvalue

theorem load_file_wins_twoFiles :
    (Finds twoFiles (some "../botconfig.txt") (readLines recordText) ∧
      (∀ setting ∈ readLines recordText, IsAdmitted setting) ∧
      ∀ name ∈ names, ∃ value, (name, value) ∈ readLines recordText) ∧
    (ofLookup recorded.lookup = .ok recorded ∧ IsPlain recorded ∧ IsRecord recorded recordText ∧
      IsSource twoFiles "../botconfig.txt" recordText) ∧
    ∃ env env', load twoFiles staleEnvironment = .ok ⟨some "../botconfig.txt", env⟩ ∧
      IsOverlay (readLines recordText) staleEnvironment.get? env.get? ∧
      ofEnvironment env = .ok recorded ∧
      load twoFiles .empty = .ok ⟨some "../botconfig.txt", env'⟩ ∧
      ofEnvironment env' = .ok recorded := by
  have hsettings : ofLookup recorded.lookup = .ok recorded := by decide +kernel
  have hsource : IsSource twoFiles "../botconfig.txt" recordText := by
    refine ⟨["botconfig.txt"], ["../../botconfig.txt", "src/botconfig.txt"], rfl, ?_, ?_⟩
    · decide +kernel
    · decide +kernel
  obtain ⟨hall, hmem⟩ := mem_readLines_of_isRecord (isUsable_of_ofLookup hsettings)
    isPlain_recorded isRecord_recordText
  have hadmitted : ∀ setting ∈ readLines recordText, IsAdmitted setting :=
    fun setting hsetting => (hmem setting hsetting).1
  obtain ⟨-, hmerge, hback⟩ := load_file_wins twoFiles
  obtain ⟨hload, hsame⟩ := hmerge _ _ (.file hsource) hadmitted
  obtain ⟨env, henv, hoverlay, -⟩ := hload staleEnvironment
  obtain ⟨_, henv', hrecorded⟩ := hback _ _ hsettings isPlain_recorded _ _ isRecord_recordText
    hsource staleEnvironment
  cases henv.symm.trans henv'
  -- Every other environment gives the same result.
  obtain ⟨result, hresult⟩ := hsame hall
  obtain ⟨_, hstale, hofStale⟩ := hresult staleEnvironment
  obtain ⟨env', hempty, hofEmpty⟩ := hresult .empty
  cases henv.symm.trans hstale
  exact ⟨⟨.file hsource, hadmitted, hall⟩,
    ⟨hsettings, isPlain_recorded, isRecord_recordText, hsource⟩, env, env', henv, hoverlay,
    hrecorded, hempty, hofEmpty.trans (hofStale.symm.trans hrecorded)⟩

end CommandBot.Settings
