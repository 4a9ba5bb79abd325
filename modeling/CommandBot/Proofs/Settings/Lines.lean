/-
**A settings file is read as it was written.**

A file may be written in many ways: with white space around names and values, with comments, blank
lines and other lines that say nothing, with either kind of line end, and with or without a byte
order mark.  The settings that are read from it are those that were written, in order.

Main definitions:

* `CommandBot.Settings.IsName`, `CommandBot.Settings.IsValue` — the names and values that can be
  written;
* `CommandBot.Settings.IsLine` — the ways to write a line;
* `CommandBot.Settings.IsText`, `CommandBot.Settings.IsFile` — the ways to write a file.

Main results:

* `CommandBot.Settings.readLine?_of_split` — what a line with a sign of equality says;
* `CommandBot.Settings.readLine?_of_isLine` — a line reads as what is written in it;
* `CommandBot.Settings.IsText.of_mark` — a byte order mark changes nothing;
* `CommandBot.Settings.readChars_of_isFile` — **a file reads as the settings written in it.**
-/

import CommandBot.Proofs.Text.Blank
import CommandBot.Settings.Lines

set_option relaxedAutoImplicit false
set_option autoImplicit false

namespace CommandBot.Settings

open Text (IsTrimmed byteOrderMark dropMark isSpace splitAtFirst? trimChars trimEndChars
  trimStartChars)

/-! ### Ways to write a file -/

/-- White space within a line. -/
def IsPadding (s : List Char) : Prop := ∀ c ∈ s, isSpace c = true ∧ c ≠ '\n'

instance (s : List Char) : Decidable (IsPadding s) :=
  List.decidableBAll (fun c => isSpace c = true ∧ c ≠ '\n') s

/-- A name that can be written. -/
structure IsName (name : List Char) : Prop where
  nonempty : name ≠ []
  undivided : '=' ∉ name
  oneLine : '\n' ∉ name
  noComment : name.head? ≠ some '#'
  noMark : name.head? ≠ some byteOrderMark
  trimmed : IsTrimmed name

/-- A value that can be written. -/
structure IsValue (value : List Char) : Prop where
  oneLine : '\n' ∉ value
  trimmed : IsTrimmed value

/-- A setting that can be written. -/
def IsWritable (setting : String × String) : Prop :=
  IsName setting.1.toList ∧ IsValue setting.2.toList

instance (name : List Char) : Decidable (IsName name) :=
  decidable_of_iff (name ≠ [] ∧ '=' ∉ name ∧ '\n' ∉ name ∧ name.head? ≠ some '#' ∧
      name.head? ≠ some byteOrderMark ∧ IsTrimmed name)
    ⟨fun ⟨h, hundivided, hline, hcomment, hmark, htrimmed⟩ =>
      ⟨h, hundivided, hline, hcomment, hmark, htrimmed⟩,
    fun h => ⟨h.nonempty, h.undivided, h.oneLine, h.noComment, h.noMark, h.trimmed⟩⟩

instance (value : List Char) : Decidable (IsValue value) :=
  decidable_of_iff ('\n' ∉ value ∧ IsTrimmed value)
    ⟨fun h => ⟨h.1, h.2⟩, fun h => ⟨h.oneLine, h.trimmed⟩⟩

instance (setting : String × String) : Decidable (IsWritable setting) :=
  inferInstanceAs (Decidable (IsName setting.1.toList ∧ IsValue setting.2.toList))

/-- **The ways to write a line**, with the setting that it gives, if it gives one. -/
inductive IsLine : Option (String × String) → List Char → Prop where
  | setting {a b c d : List Char} (name value : String) (ha : IsPadding a) (hb : IsPadding b)
      (hc : IsPadding c) (hd : IsPadding d) :
      IsLine (some (name, value)) (a ++ name.toList ++ b ++ '=' :: (c ++ value.toList ++ d))
  | comment {a text : List Char} (ha : IsPadding a) (htext : '\n' ∉ text) :
      IsLine none (a ++ '#' :: text)
  /-- Blank lines are among these. -/
  | plain {text : List Char} (htext : '\n' ∉ text) (hmark : '=' ∉ text) : IsLine none text

/-- **The ways to write a text**, with the settings that it gives.  The last line may be empty: then
the text ends with a line end. -/
inductive IsText : List (String × String) → List Char → Prop where
  | last {setting : Option (String × String)} {line : List Char} (hline : IsLine setting line) :
      IsText setting.toList line
  | line {setting : Option (String × String)} {line carriage : List Char}
      {settings : List (String × String)} {rest : List Char} (hline : IsLine setting line)
      (hcarriage : carriage = [] ∨ carriage = ['\r']) (hrest : IsText settings rest) :
      IsText (setting.toList ++ settings) (line ++ carriage ++ '\n' :: rest)

/-- **The ways to write a file**: a byte order mark may stand before the text. -/
def IsFile (settings : List (String × String)) (content : List Char) : Prop :=
  ∃ text, IsText settings text ∧ (content = text ∨ content = byteOrderMark :: text)

/-! ### Lines -/

section Lines

variable {s a b name value line : List Char} {setting : Option (String × String)}

theorem IsPadding.isSpace (h : IsPadding s) : ∀ c ∈ s, isSpace c = true := fun c hc => (h c hc).1

theorem IsPadding.oneLine (h : IsPadding s) : '\n' ∉ s := fun hc => (h _ hc).2 rfl

theorem IsPadding.undivided (h : IsPadding s) : '=' ∉ s := fun hc =>
  absurd (h _ hc).1 (by decide)

theorem IsPadding.append_return (h : IsPadding s) : IsPadding (s ++ ['\r']) := by
  intro c hc
  rcases List.mem_append.1 hc with hc | hc
  · exact h c hc
  · rw [List.mem_singleton.1 hc]
    decide

/-- Trimming at the start leaves a name and what follows it. -/
theorem trimStartChars_name (hname : IsName name) (ha : IsPadding a) :
    trimStartChars (a ++ name ++ b) = name ++ b := by
  obtain ⟨x, rest, rfl⟩ := List.exists_cons_of_ne_nil hname.nonempty
  rw [List.append_assoc, List.cons_append,
    Text.trimStartChars_append_cons (hname.trimmed.head x rfl),
    Text.trimStartChars_of_forall ha.isSpace]
  rfl

theorem head?_append_ne (hname : IsName name) {c : Char} (h : name.head? ≠ some c) :
    (name ++ b).head? ≠ some c := by
  rwa [List.head?_append_of_ne_nil _ hname.nonempty]

theorem trimChars_of_padding (h : IsTrimmed s) (ha : IsPadding a) (hb : IsPadding b) :
    trimChars (a ++ s ++ b) = s := by
  rw [Text.trimChars_pad ha.isSpace hb.isSpace, Text.trimChars_of_isTrimmed h]

theorem readLine?_of_not_mem (h : '=' ∉ line) : readLine? line = none := by
  have hnone : splitAtFirst? '=' (trimChars line) = none :=
    Text.splitAtFirst?_eq_none_iff.2 fun hmem => h (Text.mem_of_mem_trimChars hmem)
  rw [readLine?, readTrimmed?, hnone]
  exact ite_self none

/-- **What a line with a sign of equality says**, unless it is a comment: what stands before the
first such sign and what stands after it, both without their outer white space. -/
theorem readLine?_of_split {before after : List Char}
    (h : splitAtFirst? '=' line = some (before, after)) :
    readLine? line =
      if (trimStartChars before).head? = some '#' then none
      else some (String.ofList (trimChars before), String.ofList (trimChars after)) := by
  obtain ⟨rfl, hbefore⟩ := Text.splitAtFirst?_eq_some_iff.1 h
  have hstart : '=' ∉ trimStartChars before := fun hmem =>
    hbefore ((List.dropWhile_suffix isSpace).subset hmem)
  have hhead : (trimStartChars before ++ '=' :: trimEndChars after).head? = some '#' ↔
      (trimStartChars before).head? = some '#' := by
    cases trimStartChars before with
    | nil => simp
    | cons c rest => rfl
  rw [readLine?, Text.trimChars_append_cons (by decide), readTrimmed?,
    Text.splitAtFirst?_eq_some_iff.2 ⟨rfl, hstart⟩, Option.map_some,
    Text.trimChars_trimStartChars, Text.trimChars_trimEndChars]
  exact if_congr hhead rfl rfl

/-- **A line reads as what is written in it.** -/
theorem readLine?_of_isLine (h : IsLine setting line) (hwritable : ∀ s ∈ setting, IsWritable s) :
    readLine? line = setting := by
  cases h with
  | @setting a b c d name value ha hb hc hd =>
      -- The name holds no sign of equality, so the line is split at the one that was written.
      obtain ⟨hname, hvalue⟩ := hwritable _ rfl
      have hfirst : '=' ∉ a ++ name.toList ++ b := by
        simp [ha.undivided, hb.undivided, hname.undivided]
      have hsetting : (trimStartChars (a ++ name.toList ++ b)).head? ≠ some '#' := by
        rw [trimStartChars_name hname ha]
        exact head?_append_ne hname hname.noComment
      rw [readLine?_of_split (Text.splitAtFirst?_eq_some_iff.2 ⟨rfl, hfirst⟩), if_neg hsetting,
        trimChars_of_padding hname.trimmed ha hb, trimChars_of_padding hvalue.trimmed hc hd,
        String.ofList_toList, String.ofList_toList]
  | @comment a text ha htext =>
      have hmark : isSpace '#' = false := by decide
      rw [readLine?, Text.trimChars_append_cons hmark, Text.trimStartChars_of_forall ha.isSpace,
        readTrimmed?]
      exact if_pos rfl
  | plain htext hmark => exact readLine?_of_not_mem hmark

theorem IsLine.oneLine (h : IsLine setting line) (hwritable : ∀ s ∈ setting, IsWritable s) :
    '\n' ∉ line := by
  cases h with
  | setting name value ha hb hc hd =>
      obtain ⟨hname, hvalue⟩ := hwritable _ rfl
      simp [ha.oneLine, hb.oneLine, hc.oneLine, hd.oneLine, hname.oneLine, hvalue.oneLine]
  | comment ha htext => simp [ha.oneLine, htext]
  | plain htext hmark => exact htext

/-- A carriage return at the end of a line belongs to its white space. -/
theorem IsLine.append_return (h : IsLine setting line) : IsLine setting (line ++ ['\r']) := by
  cases h with
  | setting name value ha hb hc hd =>
      have := IsLine.setting name value ha hb hc hd.append_return
      simpa only [List.append_assoc, List.cons_append] using this
  | comment ha htext =>
      rw [List.append_assoc, List.cons_append]
      exact .comment ha (by simp [htext])
  | plain htext hmark => exact .plain (by simp [htext]) (by simp [hmark])

/-- A line that begins with a byte order mark gives no setting, and neither does the rest of it. -/
theorem IsLine.of_mark (h : IsLine setting (byteOrderMark :: line))
    (hwritable : ∀ s ∈ setting, IsWritable s) : IsLine setting line := by
  have hpadding : ∀ {rest}, ¬ IsPadding (byteOrderMark :: rest) := fun h =>
    absurd (h _ List.mem_cons_self).1 (by decide)
  -- Neither white space nor a name begins with the mark, so the line is a plain one.
  generalize hs : byteOrderMark :: line = s at h
  cases h with
  | @setting a b c d name value ha hb hc hd =>
      obtain ⟨hname, -⟩ := hwritable _ rfl
      cases a with
      | nil =>
          have hhead := congrArg List.head? hs
          rw [List.nil_append, List.append_assoc, List.head?_cons] at hhead
          exact absurd hhead.symm (head?_append_ne hname hname.noMark)
      | cons x a =>
          cases hs
          exact absurd ha hpadding
  | @comment a text ha htext =>
      cases a with
      | nil => cases hs
      | cons x a =>
          cases hs
          exact absurd ha hpadding
  | plain htext hmark =>
      cases hs
      exact .plain (fun h => htext (List.mem_cons_of_mem _ h))
        fun h => hmark (List.mem_cons_of_mem _ h)

end Lines

/-! ### Files -/

section Files

variable {settings : List (String × String)} {text content : List Char}

/-- A text that begins with a byte order mark gives the same settings without it. -/
theorem IsText.of_mark (h : IsText settings (byteOrderMark :: text))
    (hwritable : ∀ s ∈ settings, IsWritable s) : IsText settings text := by
  generalize hs : byteOrderMark :: text = s at h
  cases h with
  | last hline =>
      cases hs
      exact .last (hline.of_mark (by simpa using hwritable))
  | @line setting line carriage settings rest hline hcarriage hrest =>
      cases line with
      | nil =>
          rcases hcarriage with rfl | rfl
          · cases hs
          · cases hs
      | cons x line =>
          cases hs
          refine .line (hline.of_mark fun s hs => hwritable s ?_) hcarriage hrest
          exact List.mem_append_left _ (Option.mem_toList.2 hs)

theorem IsText.dropMark (h : IsText settings text) (hwritable : ∀ s ∈ settings, IsWritable s) :
    IsText settings (dropMark text) := by
  cases text with
  | nil => exact h
  | cons c rest =>
      by_cases hc : c = byteOrderMark
      · subst hc
        rw [Text.dropMark, if_pos rfl]
        exact h.of_mark hwritable
      · rwa [Text.dropMark, if_neg hc]

/-- The lines of a text give its settings. -/
theorem filterMap_splitOn_of_isText (h : IsText settings text)
    (hwritable : ∀ s ∈ settings, IsWritable s) :
    (text.splitOn '\n').filterMap readLine? = settings := by
  induction h with
  | @last setting line hline =>
      have hsetting : ∀ s ∈ setting, IsWritable s := by simpa using hwritable
      rw [List.splitOn_eq_singleton (hline.oneLine hsetting), List.filterMap_cons,
        readLine?_of_isLine hline hsetting]
      cases setting with
      | none => rfl
      | some pair => rfl
  | @line setting line carriage settings rest hline hcarriage hrest ih =>
      have hsetting : ∀ s ∈ setting, IsWritable s := fun s hs =>
        hwritable s (List.mem_append_left _ (Option.mem_toList.2 hs))
      have hwhole : IsLine setting (line ++ carriage) := by
        rcases hcarriage with rfl | rfl
        · rwa [List.append_nil]
        · exact hline.append_return
      rw [List.splitOn_append_cons_self_of_not_mem (hwhole.oneLine hsetting), List.filterMap_cons,
        readLine?_of_isLine hwhole hsetting, ih fun s hs => hwritable s (List.mem_append_right _ hs)]
      cases setting with
      | none => rfl
      | some pair => rfl

/-- **A file reads as the settings written in it**, in order. -/
theorem readChars_of_isFile (h : IsFile settings content)
    (hwritable : ∀ s ∈ settings, IsWritable s) : readChars content = settings := by
  obtain ⟨text, htext, rfl | rfl⟩ := h
  · exact filterMap_splitOn_of_isText (htext.dropMark hwritable) hwritable
  · exact filterMap_splitOn_of_isText htext hwritable

end Files

end CommandBot.Settings
