/-
**A file says what is written in it, and nothing else.**

Whatever a file holds, it is one of the ways to write the settings that are read from it: each of
its lines is a setting with white space around its parts, a comment, or a line without a sign of
equality.  So the files that settings are read from are exactly those that they can be written to.

Main definition:

* `CommandBot.Settings.plainText` — settings written one a line, without any decoration.

Main results:

* `CommandBot.Settings.isLine_readLine?` — **every line is a way to write what is read from it**;
* `CommandBot.Settings.isFile_readLines` — so is every file;
* `CommandBot.Settings.readLines_eq_iff_isFile` — **the files that settings are read from.**
-/

import CommandBot.Proofs.Settings.Lines

set_option relaxedAutoImplicit false
set_option autoImplicit false

namespace CommandBot.Settings

open Text (byteOrderMark dropMark isSpace splitAtFirst? trimChars trimStartChars)

/-! ### Every line is written -/

section Lines

variable {s line : List Char}

theorem isPadding_of_subset (hspace : ∀ c ∈ s, isSpace c = true) (hsub : s ⊆ line)
    (hline : '\n' ∉ line) : IsPadding s := by
  intro c hc
  refine ⟨hspace c hc, ?_⟩
  rintro rfl
  exact hline (hsub hc)

/-- A part of a line is what is left of it after trimming, with white space around. -/
theorem exists_padding_trimChars (hsub : s ⊆ line) (hline : '\n' ∉ line) :
    ∃ a b, IsPadding a ∧ IsPadding b ∧ s = a ++ trimChars s ++ b := by
  obtain ⟨a, b, ha, hb, hs⟩ := Text.exists_pad_trimChars s
  have ha' : a ⊆ s := by
    rw [hs, List.append_assoc]
    exact List.subset_append_left _ _
  have hb' : b ⊆ s := by
    rw [hs]
    exact List.subset_append_right _ _
  exact ⟨a, b, isPadding_of_subset ha (List.Subset.trans ha' hsub) hline,
    isPadding_of_subset hb (List.Subset.trans hb' hsub) hline, hs⟩

/-- **Every line is a way to write what is read from it.** -/
theorem isLine_readLine? (hline : '\n' ∉ line) : IsLine (readLine? line) line := by
  cases hsplit : splitAtFirst? '=' line with
  | none =>
      have hmark : '=' ∉ line := Text.splitAtFirst?_eq_none_iff.1 hsplit
      rw [readLine?_of_not_mem hmark]
      exact .plain hline hmark
  | some parts =>
      obtain ⟨before, after⟩ := parts
      obtain ⟨rfl, -⟩ := Text.splitAtFirst?_eq_some_iff.1 hsplit
      rw [readLine?_of_split hsplit]
      split
      · next hcomment =>
          obtain ⟨a, ha, hbefore⟩ := Text.exists_append_trimStartChars before
          obtain ⟨text, htext⟩ := List.head?_eq_some_iff.1 hcomment
          rw [hbefore, htext, List.append_assoc, List.cons_append] at hline ⊢
          refine .comment (isPadding_of_subset ha (List.subset_append_left _ _) hline) ?_
          exact fun hmem => hline (List.mem_append_right _ (List.mem_cons_of_mem _ hmem))
      · obtain ⟨a, b, ha, hb, hbefore⟩ :=
          exists_padding_trimChars (List.subset_append_left before ('=' :: after)) hline
        obtain ⟨c, d, hc, hd, hafter⟩ :=
          exists_padding_trimChars (List.subset_append_of_subset_right before
            (List.subset_cons_self '=' after)) hline
        have hwritten := IsLine.setting (String.ofList (trimChars before))
          (String.ofList (trimChars after)) ha hb hc hd
        rwa [String.toList_ofList, String.toList_ofList, ← hbefore, ← hafter] at hwritten

end Lines

/-! ### Every file is written -/

/-- Every text is a way to write what its lines give. -/
theorem isText_filterMap_splitOn (text : List Char) :
    IsText ((text.splitOn '\n').filterMap readLine?) text := by
  by_cases h : '\n' ∈ text
  · obtain ⟨line, rest, htext, hline⟩ := List.eq_append_cons_of_mem h
    have hshorter : rest.length < text.length := by
      rw [htext, List.length_append, List.length_cons]
      omega
    have hrest := IsText.line (isLine_readLine? hline) (.inl rfl) (isText_filterMap_splitOn rest)
    rw [List.append_nil] at hrest
    rwa [htext, List.splitOn_append_cons_self_of_not_mem hline, List.filterMap_eq_flatMap_toList,
      List.flatMap_cons, ← List.filterMap_eq_flatMap_toList]
  · have hlast := IsText.last (isLine_readLine? h)
    rwa [List.splitOn_eq_singleton h, List.filterMap_eq_flatMap_toList, List.flatMap_singleton]
termination_by text.length

/-- **Every file is a way to write what is read from it.** -/
theorem isFile_readLines (content : String) : IsFile (readLines content) content.toList := by
  have htext := isText_filterMap_splitOn (dropMark content.toList)
  refine ⟨_, htext, ?_⟩
  cases content.toList with
  | nil => exact .inl rfl
  | cons c rest =>
      by_cases hc : c = byteOrderMark
      · rw [dropMark, if_pos hc, hc]
        exact .inr rfl
      · rw [dropMark, if_neg hc]
        exact .inl rfl

/-! ### Settings without decoration -/

/-- **Settings written one a line**, without any decoration. -/
def plainText (settings : List (String × String)) : String :=
  String.join (settings.map fun setting => setting.1 ++ "=" ++ setting.2 ++ "\n")

theorem isFile_plainText (settings : List (String × String)) :
    IsFile settings (plainText settings).toList := by
  refine ⟨_, ?_, .inl rfl⟩
  have hblank : IsPadding [] := List.forall_mem_nil _
  induction settings with
  | nil => exact .last (.plain (List.not_mem_nil) (List.not_mem_nil))
  | cons setting settings ih =>
      have hline := IsText.line (.setting setting.1 setting.2 hblank hblank hblank hblank)
        (.inl rfl) ih
      simpa [plainText, String.toList_join] using hline

/-! ### All together -/

/-- **The files that settings are read from** are those that they are written in.  If the names and
values of some settings can be written, then they are read back in order, each as often as it
occurs, from one a line without decoration, and from a file with white space around names and
values, comments, blank lines and other lines that say nothing, either kind of line end, a last line
that is ended or not, and a byte order mark or none; and they are read from no other file. -/
theorem readLines_eq_iff_isFile {settings : List (String × String)}
    (hwritable : ∀ setting ∈ settings, IsWritable setting) :
    readLines (plainText settings) = settings ∧
      ∀ content : String, readLines content = settings ↔ IsFile settings content.toList := by
  have hread : ∀ content : String, IsFile settings content.toList → readLines content = settings :=
    fun content h => readChars_of_isFile h hwritable
  refine ⟨hread _ (isFile_plainText settings), fun content => ⟨?_, hread content⟩⟩
  rintro rfl
  exact isFile_readLines content

/-- A name that occurs twice, a value with marks in it, and an empty one. -/
def repeated : List (String × String) := [("A", "1=#"), ("B", ""), ("A", "x y")]

/-- One way to write them: with a byte order mark, all kinds of lines and no line end at the end. -/
def decorated : String := "\ufeff \t# A=0\r\n\u00a0A\t=\u3000 1=# \r\n\r\nno setting\nB=\nA = x y"

theorem readLines_eq_iff_isFile_decorated :
    (∀ setting ∈ repeated, IsWritable setting) ∧ IsFile repeated decorated.toList ∧
      readLines decorated = repeated := by
  have hwritable : ∀ setting ∈ repeated, IsWritable setting := by decide
  have hblank : IsPadding [] := by decide
  have hspace : IsPadding [' '] := by decide
  have hindent : IsPadding " \t".toList := by decide
  have htab : IsPadding ['\t'] := by decide
  have hfixed : IsPadding ['\u00a0'] := by decide
  have hwide : IsPadding ['\u3000', ' '] := by decide
  have htext :=
    IsText.line (@IsLine.comment " \t".toList " A=0".toList hindent (by decide)) (.inr rfl) <|
    .line (@IsLine.setting ['\u00a0'] ['\t'] ['\u3000', ' '] [' '] "A" "1=#" hfixed htab hwide
      hspace) (.inr rfl) <|
    .line (@IsLine.plain [] (by decide) (by decide)) (.inr rfl) <|
    .line (@IsLine.plain "no setting".toList (by decide) (by decide)) (.inl rfl) <|
    .line (.setting "B" "" hblank hblank hblank hblank) (.inl rfl) <|
    .last (.setting "A" "x y" hblank hspace hspace hblank)
  have hfile : IsFile repeated decorated.toList := ⟨_, htext, .inr (by decide)⟩
  exact ⟨hwritable, hfile, ((readLines_eq_iff_isFile hwritable).2 decorated).2 hfile⟩

end CommandBot.Settings
