/-
**What a description tells.**

The description of a command is made for a log.  Whatever names and verbs a command has, the
description stays on one line and has no character that leaves no mark of its own; and it tells the
name, the verbs and the need for a store apart, since every part of it shows where it ends.

Main definitions:

* `CommandBot.Text.SelfDelimiting` — what is written shows where it ends.

Main results:

* `CommandBot.Text.selfDelimiting_escapeChar`, `CommandBot.Text.selfDelimiting_quote`,
  `CommandBot.Text.selfDelimiting_quoteList` — quoted characters, texts and lists do;
* `CommandBot.Text.isHidden_of_mem_quote` — **no quoted character is hidden**;
* `CommandBot.Command.isHidden_of_mem_describe` — nor is one of a description;
* `CommandBot.Command.describe_eq_iff` — **a description tells the parts of a command.**
-/

import CommandBot.Registry
import CommandBot.Text.Cut
import CommandBot.Text.Hex

set_option relaxedAutoImplicit false
set_option autoImplicit false

namespace CommandBot

namespace Text

/-! ### Hexadecimal digits -/

/-- The digits of a number to the base 16 are digits of that base. -/
theorem exists_of_mem_hexDigits {n : Nat} {c : Char} (hc : c ∈ Nat.toDigits 16 n) :
    ∃ d < 16, c = Nat.digitChar d := by
  induction n using Nat.strongRecOn with
  | ind n ih =>
      rcases Nat.lt_or_ge n 16 with hlt | hge
      · rw [Nat.toDigits_of_lt_base hlt, List.mem_singleton] at hc
        exact ⟨n, hlt, hc⟩
      · rw [Nat.toDigits_of_base_le (by decide) hge, List.mem_append, List.mem_singleton] at hc
        rcases hc with hc | hc
        · exact ih (n / 16) (by omega) hc
        · exact ⟨n % 16, Nat.mod_lt n (by decide), hc⟩

theorem endBrace_not_mem_hexDigits (n : Nat) : '\x7d' ∉ Nat.toDigits 16 n := by
  have hdigit : ∀ d < 16, '\x7d' ≠ Nat.digitChar d := by decide
  intro hmem
  obtain ⟨d, hd, h⟩ := exists_of_mem_hexDigits hmem
  exact hdigit d hd h

/-- The number that some digits to the base 16 show. -/
def hexValue (digits : List Char) : Nat :=
  digits.foldl (fun n c => n * 16 + (hexDigit? c).getD 0) 0

theorem hexValue_toDigits (n : Nat) : hexValue (Nat.toDigits 16 n) = n := by
  have hdigit : ∀ d < 16, (hexDigit? (Nat.digitChar d)).getD 0 = d := by decide
  induction n using Nat.strongRecOn with
  | ind n ih =>
      rcases Nat.lt_or_ge n 16 with hlt | hge
      · rw [Nat.toDigits_of_lt_base hlt, hexValue, List.foldl_cons, List.foldl_nil, hdigit n hlt]
        omega
      · have hlast := hdigit (n % 16) (Nat.mod_lt n (by decide))
        have hrest := ih (n / 16) (by omega)
        rw [hexValue] at hrest
        rw [Nat.toDigits_of_base_le (by decide) hge, hexValue, List.foldl_append, hrest,
          List.foldl_cons, List.foldl_nil, hlast]
        omega

/-! ### Escapes -/

/-- What is written shows for what it was written and where it ends. -/
def SelfDelimiting {α : Type} (write : α → List Char) : Prop :=
  ∀ a b s t, write a ++ s = write b ++ t → a = b ∧ s = t

/-- The character that stands behind a backslash, with what follows it. -/
def readEscaped? : List Char → Option (Char × List Char)
  | [] => none
  | 'u' :: '\x7b' :: s =>
      (splitAtFirst? '\x7d' s).map fun parts => (Char.ofNat (hexValue parts.1), parts.2)
  | 'n' :: s => some ('\n', s)
  | 'r' :: s => some ('\r', s)
  | 't' :: s => some ('\t', s)
  | '0' :: s => some (Char.ofNat 0, s)
  | c :: s => some (c, s)

/-- The character that a text begins with, escaped or not, with what follows it. -/
def readChar? : List Char → Option (Char × List Char)
  | [] => none
  | c :: s => if c = '\\' then readEscaped? s else some (c, s)

/-- The characters that have an escape of their own. -/
def escapedMarks : List Char := ['"', '\\', '\n', '\r', '\t', Char.ofNat 0]

theorem readChar?_of_mem {c : Char} (hc : c ∈ escapedMarks) (s : List Char) :
    readChar? (escapeChar c ++ s) = some (c, s) := by
  simp only [escapedMarks, List.mem_cons, List.not_mem_nil, or_false] at hc
  rcases hc with rfl | rfl | rfl | rfl | rfl | rfl <;> rfl

theorem escapeChar_of_not_mem {c : Char} (hc : c ∉ escapedMarks) :
    escapeChar c =
      if isHidden c then ['\\', 'u', '\x7b'] ++ Nat.toDigits 16 c.toNat ++ ['\x7d'] else [c] := by
  simp only [escapedMarks, List.mem_cons, List.not_mem_nil, or_false, not_or] at hc
  simp [escapeChar, hc]

/-- **An escape is read back.** -/
theorem readChar?_escapeChar (c : Char) (s : List Char) :
    readChar? (escapeChar c ++ s) = some (c, s) := by
  by_cases hc : c ∈ escapedMarks
  · exact readChar?_of_mem hc s
  · rw [escapeChar_of_not_mem hc]
    split
    · have hsplit : splitAtFirst? '\x7d' (Nat.toDigits 16 c.toNat ++ '\x7d' :: s) =
          some (Nat.toDigits 16 c.toNat, s) :=
        splitAtFirst?_eq_some_iff.2 ⟨rfl, endBrace_not_mem_hexDigits _⟩
      simp [readChar?, readEscaped?, hsplit, hexValue_toDigits]
    · have hslash : c ≠ '\\' := by
        rintro rfl
        exact hc (by decide)
      simp [readChar?, hslash]

theorem selfDelimiting_escapeChar : SelfDelimiting escapeChar := by
  intro a b s t h
  have hread := congrArg readChar? h
  rw [readChar?_escapeChar, readChar?_escapeChar] at hread
  exact Prod.mk.inj (Option.some.inj hread)

/-! ### Sequences -/

section Sequences

variable {α : Type} {write : α → List Char} {stop : Char}

/-- **A sequence shows where it ends** if its parts do and none begins with the mark behind it. -/
theorem SelfDelimiting.flatMap (h : SelfDelimiting write)
    (hstop : ∀ a s t, write a ++ s ≠ stop :: t) :
    SelfDelimiting fun l : List α => l.flatMap write ++ [stop] := by
  intro l
  induction l with
  | nil =>
      intro l' s t heq
      cases l' with
      | nil => exact ⟨rfl, (List.cons.inj heq).2⟩
      | cons b l' =>
          simp only [List.flatMap_cons, List.append_assoc] at heq
          exact absurd heq.symm (hstop b _ _)
  | cons a l ih =>
      intro l' s t heq
      cases l' with
      | nil =>
          simp only [List.flatMap_cons, List.append_assoc] at heq
          exact absurd heq (hstop a _ _)
      | cons b l' =>
          simp only [List.flatMap_cons, List.append_assoc] at heq
          obtain ⟨rfl, hrest⟩ := h _ _ _ _ heq
          simp only [← List.append_assoc] at hrest
          obtain ⟨rfl, rfl⟩ := ih l' s t hrest
          exact ⟨rfl, rfl⟩

end Sequences

/-! ### Texts and lists -/

/-- A quote ends a quoted text, and is not met before. -/
theorem escapeChar_append_ne (c : Char) (s t : List Char) : escapeChar c ++ s ≠ '"' :: t := by
  intro h
  have hread := congrArg readChar? h
  rw [readChar?_escapeChar] at hread
  obtain ⟨rfl, -⟩ := Prod.mk.inj (Option.some.inj hread)
  cases h

theorem toList_quote (s : String) :
    (quote s).toList = '"' :: (s.toList.flatMap escapeChar ++ ['"']) := by
  rw [quote, String.toList_ofList]

/-- **A quoted text shows where it ends.** -/
theorem selfDelimiting_quote : SelfDelimiting fun s => (quote s).toList := by
  intro a b s t h
  simp only [toList_quote, List.cons_append, List.cons.injEq, true_and] at h
  obtain ⟨hsame, rfl⟩ :=
    selfDelimiting_escapeChar.flatMap escapeChar_append_ne _ _ _ _ h
  exact ⟨String.toList_inj.1 hsame, rfl⟩

/-- A list between brackets, by its first text and the others. -/
theorem toList_quoteList_cons (first : String) (rest : List String) :
    (quoteList (first :: rest)).toList =
      '[' :: ((quote first).toList ++
        (rest.flatMap (fun s => [',', ' '] ++ (quote s).toList) ++ [']'])) := by
  have hmark : ", ".toList = [',', ' '] := by decide
  have hopen : "[".toList = ['['] := by decide
  have hclose : "]".toList = [']'] := by decide
  rw [quoteList, String.toList_append, String.toList_append, String.toList_intercalate, hmark,
    hopen, hclose, List.map_cons, List.map_cons, intercalate_cons_eq_flatMap]
  simp only [List.flatMap_map, List.append_assoc, List.cons_append, List.nil_append]

/-- **A quoted list shows where it ends.** -/
theorem selfDelimiting_quoteList : SelfDelimiting fun texts => (quoteList texts).toList := by
  have hempty : (quoteList []).toList = ['[', ']'] := by decide
  -- The texts but the first are a sequence, each with a comma before it.
  have hrest : SelfDelimiting fun l : List String =>
      l.flatMap (fun s => [',', ' '] ++ (quote s).toList) ++ [']'] := by
    refine SelfDelimiting.flatMap (fun a b s t h => ?_) fun a s t h => ?_
    · exact selfDelimiting_quote a b s t (by simpa using h)
    · cases h
  intro a b s t h
  cases a with
  | nil =>
      cases b with
      | nil => exact ⟨rfl, List.append_cancel_left h⟩
      | cons first rest =>
          simp only [hempty, toList_quoteList_cons, toList_quote] at h
          cases h
  | cons first rest =>
      cases b with
      | nil =>
          simp only [hempty, toList_quoteList_cons, toList_quote] at h
          cases h
      | cons first' rest' =>
          simp only [toList_quoteList_cons, List.cons_append, List.append_assoc, List.cons.injEq,
            true_and] at h
          obtain ⟨rfl, htail⟩ := selfDelimiting_quote _ _ _ _ h
          obtain ⟨rfl, rfl⟩ := hrest rest rest' s t (by simpa using htail)
          exact ⟨rfl, rfl⟩

/-! ### What is shown -/

/-- A printable character of ASCII. -/
def IsPrintable (c : Char) : Prop := 32 ≤ c.toNat ∧ c.toNat < 127

instance (c : Char) : Decidable (IsPrintable c) := inferInstanceAs (Decidable (_ ∧ _))

theorem IsPrintable.isHidden_eq_false {c : Char} (h : IsPrintable c) : isHidden c = false := by
  have hranges : (hiddenRanges.all fun range => range.2 < 32 || 127 ≤ range.1) = true := by
    decide +kernel
  rw [List.all_eq_true] at hranges
  rw [isHidden, List.any_eq_false]
  intro range hrange
  have hplace := hranges range hrange
  have hlow := h.1
  have hhigh := h.2
  simp only [Bool.or_eq_true, decide_eq_true_eq] at hplace
  simp only [Bool.and_eq_true, decide_eq_true_eq, not_and]
  omega

/-- A text of printable characters has no hidden one. -/
theorem isHidden_of_mem_plain {s : List Char} (hs : (s.all fun c => IsPrintable c) = true) {d : Char}
    (hd : d ∈ s) : isHidden d = false := by
  rw [List.all_eq_true] at hs
  have hprintable : IsPrintable d := by simpa using hs d hd
  exact hprintable.isHidden_eq_false

theorem isHidden_of_mem_hexDigits {n : Nat} {d : Char} (hd : d ∈ Nat.toDigits 16 n) :
    isHidden d = false := by
  have hdigits : (((List.range 16).map Nat.digitChar).all fun c => IsPrintable c) = true := by
    decide
  obtain ⟨n, hn, rfl⟩ := exists_of_mem_hexDigits hd
  exact isHidden_of_mem_plain hdigits (List.mem_map_of_mem (List.mem_range.2 hn))

/-- What a character is written with is not hidden. -/
theorem isHidden_of_mem_escapeChar {c d : Char} (hd : d ∈ escapeChar c) : isHidden d = false := by
  have hmarks : ((escapedMarks.flatMap escapeChar).all fun c => IsPrintable c) = true := by decide
  have hframe : (['\\', 'u', '\x7b', '\x7d'].all fun c => IsPrintable c) = true := by decide
  by_cases hc : c ∈ escapedMarks
  · exact isHidden_of_mem_plain hmarks (List.mem_flatMap.2 ⟨c, hc, hd⟩)
  · rw [escapeChar_of_not_mem hc] at hd
    split at hd
    · rw [List.mem_append, List.mem_append] at hd
      rcases hd with (hd | hd) | hd
      · exact isHidden_of_mem_plain hframe (List.mem_append_left ['\x7d'] hd)
      · exact isHidden_of_mem_hexDigits hd
      · exact isHidden_of_mem_plain hframe (List.mem_append_right ['\\', 'u', '\x7b'] hd)
    · next hshown =>
        rw [List.mem_singleton.1 hd]
        simpa using hshown

/-- **No quoted character is hidden.** -/
theorem isHidden_of_mem_quote {s : String} {d : Char} (hd : d ∈ (quote s).toList) :
    isHidden d = false := by
  have hquote : (['"'].all fun c => IsPrintable c) = true := by decide
  rw [toList_quote, List.mem_cons, List.mem_append, List.mem_flatMap] at hd
  rcases hd with rfl | ⟨c, -, hd⟩ | hd
  · exact isHidden_of_mem_plain hquote List.mem_cons_self
  · exact isHidden_of_mem_escapeChar hd
  · exact isHidden_of_mem_plain hquote hd

/-- Nor is one of a quoted list. -/
theorem isHidden_of_mem_quoteList {texts : List String} {d : Char}
    (hd : d ∈ (quoteList texts).toList) : isHidden d = false := by
  have hbrackets : (['[', ']'].all fun c => IsPrintable c) = true := by decide
  have hcomma : ([',', ' '].all fun c => IsPrintable c) = true := by decide
  cases texts with
  | nil => exact isHidden_of_mem_plain hbrackets hd
  | cons first rest =>
      simp only [toList_quoteList_cons, List.mem_cons, List.mem_append, List.mem_flatMap] at hd
      rcases hd with rfl | hd | ⟨s, -, hd | hd⟩ | hd
      · exact isHidden_of_mem_plain hbrackets List.mem_cons_self
      · exact isHidden_of_mem_quote hd
      · exact isHidden_of_mem_plain hcomma (by simpa using hd)
      · exact isHidden_of_mem_quote hd
      · exact isHidden_of_mem_plain hbrackets (by simpa using Or.inr hd)

end Text

/-! ### Commands -/

namespace Command

open Text

/-- A description, part by part. -/
theorem toList_describe (c : Command) : c.describe.toList =
    "Command \x7b name: ".toList ++ ((quote c.name).toList ++ (", verbs: ".toList ++
      ((quoteList c.verbs).toList ++ (", needs_store: ".toList ++
        ((if c.needsStore then "true" else "false").toList ++ " \x7d".toList))))) := by
  delta describe
  simp only [String.toList_append, List.append_assoc]

/-- The words of a description. -/
def descriptionWords : List String :=
  ["Command \x7b name: ", ", verbs: ", ", needs_store: ", "true", "false", " \x7d"]

theorem isHidden_of_mem_descriptionWords {word : String} (h : word ∈ descriptionWords) {d : Char}
    (hd : d ∈ word.toList) : isHidden d = false := by
  have hwords : ((descriptionWords.flatMap String.toList).all fun c => IsPrintable c) = true := by
    decide +kernel
  exact isHidden_of_mem_plain hwords (List.mem_flatMap.2 ⟨word, h, hd⟩)

/-- **A description has no hidden character.**  So it stays on one line. -/
theorem isHidden_of_mem_describe {c : Command} {d : Char} (hd : d ∈ c.describe.toList) :
    isHidden d = false := by
  have hflag : (if c.needsStore then "true" else "false") ∈ descriptionWords := by
    cases c.needsStore with
    | true => simp [descriptionWords]
    | false => simp [descriptionWords]
  rw [toList_describe] at hd
  simp only [List.mem_append] at hd
  rcases hd with hd | hd | hd | hd | hd | hd | hd
  · exact isHidden_of_mem_descriptionWords (by simp [descriptionWords]) hd
  · exact isHidden_of_mem_quote hd
  · exact isHidden_of_mem_descriptionWords (by simp [descriptionWords]) hd
  · exact isHidden_of_mem_quoteList hd
  · exact isHidden_of_mem_descriptionWords (by simp [descriptionWords]) hd
  · exact isHidden_of_mem_descriptionWords hflag hd
  · exact isHidden_of_mem_descriptionWords (by simp [descriptionWords]) hd

/-- **A description tells the parts of a command**: the name, the verbs and whether it needs a
store. -/
theorem describe_eq_iff {a b : Command} : a.describe = b.describe ↔
    a.name = b.name ∧ a.verbs = b.verbs ∧ a.needsStore = b.needsStore := by
  constructor
  · intro h
    have hchars := congrArg String.toList h
    rw [toList_describe, toList_describe] at hchars
    obtain ⟨hname, hchars⟩ := selfDelimiting_quote _ _ _ _ (List.append_cancel_left hchars)
    obtain ⟨hverbs, hchars⟩ := selfDelimiting_quoteList _ _ _ _ (List.append_cancel_left hchars)
    have hflag := List.append_cancel_right (List.append_cancel_left hchars)
    refine ⟨hname, hverbs, ?_⟩
    have htold : ∀ x y : Bool, (if x then "true" else "false").toList =
        (if y then "true" else "false").toList → x = y := by decide
    exact htold _ _ hflag
  · rintro ⟨hname, hverbs, hstore⟩
    rw [← String.toList_inj, toList_describe, toList_describe, hname, hverbs, hstore]

end Command

end CommandBot
