/-
**Scanning follows the grammar.**

A token is scanned from the front of a text exactly if the text begins with a spelling of it.  Of a
number as much is taken as can be, so a number is only scanned as a whole if what follows cannot
continue it; nothing that may follow a value in a document can.

Main definitions:

* `CommandBot.Json.Ends` — a text that does not continue a number;
* `CommandBot.Json.Spelling` — how a token is spelled;
* `CommandBot.Json.Spelled` — a text as a sequence of tokens with white space around them.

Main results:

* `CommandBot.Json.numeral_of_scanNumber?`, `CommandBot.Json.scanNumber?_of_numeral` — scanning a
  number;
* `CommandBot.Json.scanString?_eq_some_iff` — scanning a string;
* `CommandBot.Json.spelling_of_scan?`, `CommandBot.Json.scan?_append` — **scanning a token**;
* `CommandBot.Json.spelled_of_tokens?` — the tokens of a text spell it;
* `CommandBot.Json.decode?_eq_some_iff` — what a string stands for.
-/

import CommandBot.Json.Grammar

set_option relaxedAutoImplicit false
set_option autoImplicit false

namespace CommandBot.Json

open Grammar

/-- A scanner that puts one thing before what another one finds. -/
theorem exists_of_map_cons {α : Type} {found : Option (List α × List Char)} {first : α}
    {all : List α} {rest : List Char}
    (h : found.map (fun r => (first :: r.1, r.2)) = some (all, rest)) :
    ∃ others, found = some (others, rest) ∧ all = first :: others := by
  obtain ⟨⟨others, rest'⟩, hfound, he⟩ := Option.map_eq_some_iff.1 h
  cases he
  exact ⟨others, hfound, rfl⟩

/-! ### Digits -/

theorem isDigit_of_mem_spanDigits (s : List Char) : ∀ c ∈ (spanDigits s).1, c.isDigit = true := by
  induction s with
  | nil => simp [spanDigits]
  | cons c rest ih =>
      by_cases hc : c.isDigit = true
      · simpa [spanDigits, hc] using ih
      · simp [spanDigits, hc]

theorem digits_of_scanDigits? {s digits rest : List Char}
    (h : scanDigits? s = some (digits, rest)) : s = digits ++ rest ∧ Digits digits := by
  obtain ⟨happend, hne⟩ := scanDigits?_append h
  refine ⟨happend.symm, hne, ?_⟩
  unfold scanDigits? at h
  split at h
  · cases h
  · obtain rfl : (spanDigits s).1 = digits := by rw [Option.some.inj h]
    exact isDigit_of_mem_spanDigits s

theorem spanDigits_of_digits {digits rest : List Char} (h : ∀ c ∈ digits, c.isDigit = true)
    (hrest : ∀ c ∈ rest.head?, c.isDigit = false) :
    spanDigits (digits ++ rest) = (digits, rest) := by
  induction digits with
  | nil =>
      cases rest with
      | nil => rfl
      | cons c rest =>
          have hc : c.isDigit = false := hrest c rfl
          simp [spanDigits, hc]
  | cons c digits ih =>
      have hc : c.isDigit = true := h c List.mem_cons_self
      have htail := ih fun d hd => h d (List.mem_cons_of_mem c hd)
      simp [spanDigits, hc, htail]

theorem scanDigits?_of_digits {digits rest : List Char} (h : Digits digits)
    (hrest : ∀ c ∈ rest.head?, c.isDigit = false) :
    scanDigits? (digits ++ rest) = some (digits, rest) := by
  obtain ⟨hne, hdigits⟩ := h
  rw [scanDigits?, spanDigits_of_digits hdigits hrest]
  cases digits with
  | nil => exact absurd rfl hne
  | cons c digits => rfl

/-- The first of some digits is no mark. -/
theorem Grammar.Digits.head_ne {c d : Char} {s : List Char} (h : Digits (c :: s))
    (hd : d.isDigit = false) : c ≠ d := by
  rintro rfl
  rw [h.2 c List.mem_cons_self] at hd
  cases hd

/-! ### Numbers -/

theorem whole_of_scanWhole? {s whole rest : List Char} (h : scanWhole? s = some (whole, rest)) :
    s = whole ++ rest ∧ Whole whole := by
  unfold scanWhole? at h
  split at h
  · cases h
    exact ⟨rfl, .zero⟩
  · next hzero =>
      obtain ⟨rfl, hdigits⟩ := digits_of_scanDigits? h
      cases whole with
      | nil => exact absurd rfl hdigits.1
      | cons c whole =>
          refine ⟨rfl, .digits ?_ hdigits⟩
          rintro rfl
          exact hzero _ rfl

theorem scanWhole?_of_whole {whole rest : List Char} (h : Whole whole)
    (hrest : ∀ c ∈ rest.head?, c.isDigit = false) :
    scanWhole? (whole ++ rest) = some (whole, rest) := by
  cases h with
  | zero => rfl
  | @digits first s hzero hdigits =>
      rw [← scanDigits?_of_digits hdigits hrest, List.cons_append]
      unfold scanWhole?
      split
      · next heq => exact absurd (List.cons.inj heq).1 hzero
      · rfl

theorem fraction_of_scanFraction? {s fraction rest : List Char}
    (h : scanFraction? s = some (fraction, rest)) : s = fraction ++ rest ∧ Fraction fraction := by
  unfold scanFraction? at h
  split at h
  · obtain ⟨_, hr, rfl⟩ := exists_of_map_cons h
    obtain ⟨rfl, hdigits⟩ := digits_of_scanDigits? hr
    exact ⟨rfl, .digits hdigits⟩
  · cases h
    exact ⟨rfl, .absent⟩

theorem scanFraction?_of_fraction {fraction rest : List Char} (h : Fraction fraction)
    (hrest : ∀ c ∈ rest.head?, c.isDigit = false ∧ c ≠ '.') :
    scanFraction? (fraction ++ rest) = some (fraction, rest) := by
  cases h with
  | absent =>
      rw [List.nil_append]
      unfold scanFraction?
      split
      · exact absurd rfl (hrest '.' rfl).2
      · rfl
  | digits hdigits =>
      have hscan := scanDigits?_of_digits hdigits fun c hc => (hrest c hc).1
      rw [List.cons_append, scanFraction?, hscan]
      rfl

/-- What follows the mark of an exponent makes an exponent with it. -/
theorem exponent_of_scanSignedDigits? {mark : Char} (hmark : mark = 'e' ∨ mark = 'E')
    {s digits rest : List Char} (h : scanSignedDigits? s = some (digits, rest)) :
    s = digits ++ rest ∧ Exponent (mark :: digits) := by
  unfold scanSignedDigits? at h
  split at h
  · obtain ⟨_, hr, rfl⟩ := exists_of_map_cons h
    obtain ⟨rfl, hdigits⟩ := digits_of_scanDigits? hr
    exact ⟨rfl, .signed hmark (.inl rfl) hdigits⟩
  · obtain ⟨_, hr, rfl⟩ := exists_of_map_cons h
    obtain ⟨rfl, hdigits⟩ := digits_of_scanDigits? hr
    exact ⟨rfl, .signed hmark (.inr rfl) hdigits⟩
  · obtain ⟨rfl, hdigits⟩ := digits_of_scanDigits? h
    exact ⟨rfl, .unsigned hmark hdigits⟩

theorem exponent_of_scanExponent? {s exponent rest : List Char}
    (h : scanExponent? s = some (exponent, rest)) : s = exponent ++ rest ∧ Exponent exponent := by
  unfold scanExponent? at h
  split at h
  · obtain ⟨_, hr, rfl⟩ := exists_of_map_cons h
    obtain ⟨rfl, hexponent⟩ := exponent_of_scanSignedDigits? (.inl rfl) hr
    exact ⟨rfl, hexponent⟩
  · obtain ⟨_, hr, rfl⟩ := exists_of_map_cons h
    obtain ⟨rfl, hexponent⟩ := exponent_of_scanSignedDigits? (.inr rfl) hr
    exact ⟨rfl, hexponent⟩
  · cases h
    exact ⟨rfl, .absent⟩

theorem scanSignedDigits?_of_digits {digits rest : List Char} (h : Digits digits)
    (hrest : ∀ c ∈ rest.head?, c.isDigit = false) :
    scanSignedDigits? (digits ++ rest) = some (digits, rest) := by
  rw [← scanDigits?_of_digits h hrest]
  cases digits with
  | nil => exact absurd rfl h.1
  | cons c digits =>
      rw [List.cons_append]
      unfold scanSignedDigits?
      split
      · next heq => exact absurd (List.cons.inj heq).1 (h.head_ne (by decide))
      · next heq => exact absurd (List.cons.inj heq).1 (h.head_ne (by decide))
      · rfl

/-- A text that does not continue a number. -/
def Ends (s : List Char) : Prop :=
  ∀ c ∈ s.head?, c.isDigit = false ∧ c ≠ '.' ∧ c ≠ 'e' ∧ c ≠ 'E'

theorem scanExponent?_of_exponent {exponent rest : List Char} (h : Exponent exponent)
    (hrest : Ends rest) : scanExponent? (exponent ++ rest) = some (exponent, rest) := by
  cases h with
  | absent =>
      rw [List.nil_append]
      unfold scanExponent?
      split
      · exact absurd rfl (hrest 'e' rfl).2.2.1
      · exact absurd rfl (hrest 'E' rfl).2.2.2
      · rfl
  | unsigned mark hdigits =>
      have hscan := scanSignedDigits?_of_digits hdigits fun c hc => (hrest c hc).1
      rcases mark with rfl | rfl
      · rw [List.cons_append, scanExponent?, hscan]
        rfl
      · rw [List.cons_append, scanExponent?, hscan]
        rfl
  | signed mark sign hdigits =>
      have hscan := scanDigits?_of_digits hdigits fun c hc => (hrest c hc).1
      rcases mark with rfl | rfl <;> rcases sign with rfl | rfl <;>
        simp only [List.cons_append, scanExponent?, scanSignedDigits?, hscan, Option.map_some]

theorem magnitude_of_scanMagnitude? {s magnitude rest : List Char}
    (h : scanMagnitude? s = some (magnitude, rest)) :
    s = magnitude ++ rest ∧ Magnitude magnitude := by
  simp only [scanMagnitude?, Option.bind_eq_bind, Option.bind_eq_some_iff, Prod.exists,
    Option.pure_def, Option.some.injEq, Prod.mk.injEq] at h
  obtain ⟨whole, s₁, hs, fraction, s₂, hs₁, exponent, s₃, hs₂, rfl, rfl⟩ := h
  obtain ⟨rfl, hwhole⟩ := whole_of_scanWhole? hs
  obtain ⟨rfl, hfraction⟩ := fraction_of_scanFraction? hs₁
  obtain ⟨rfl, hexponent⟩ := exponent_of_scanExponent? hs₂
  exact ⟨by simp, .mk hwhole hfraction hexponent⟩

/-- An exponent, or what follows it, continues no digits and begins no fraction. -/
theorem Grammar.Exponent.head_append {exponent rest : List Char} (h : Exponent exponent)
    (hrest : Ends rest) : ∀ c ∈ (exponent ++ rest).head?, c.isDigit = false ∧ c ≠ '.' := by
  cases h with
  | absent =>
      intro c hc
      exact ⟨(hrest c hc).1, (hrest c hc).2.1⟩
  | unsigned mark _ =>
      rcases mark with rfl | rfl <;> simp
  | signed mark _ _ =>
      rcases mark with rfl | rfl <;> simp

theorem scanMagnitude?_of_magnitude {magnitude rest : List Char} (h : Magnitude magnitude)
    (hrest : Ends rest) : scanMagnitude? (magnitude ++ rest) = some (magnitude, rest) := by
  obtain @⟨whole, fraction, exponent, hwhole, hfraction, hexponent⟩ := h
  have hend := hexponent.head_append hrest
  have hpoint : ∀ c ∈ (fraction ++ (exponent ++ rest)).head?, c.isDigit = false := by
    cases hfraction with
    | absent =>
        intro c hc
        exact (hend c hc).1
    | digits _ => simp
  simp only [scanMagnitude?, List.append_assoc, scanWhole?_of_whole hwhole hpoint,
    scanFraction?_of_fraction hfraction hend, scanExponent?_of_exponent hexponent hrest,
    Option.bind_eq_bind, Option.bind_some, Option.pure_def]

/-- A magnitude begins with a digit. -/
theorem Grammar.Magnitude.exists_cons {magnitude : List Char} (h : Magnitude magnitude) :
    ∃ c s, magnitude = c :: s ∧ c.isDigit = true := by
  obtain ⟨hwhole, -, -⟩ := h
  cases hwhole with
  | zero => exact ⟨'0', _, rfl, by decide⟩
  | @digits first s _ hdigits => exact ⟨first, _, rfl, hdigits.2 first List.mem_cons_self⟩

theorem numeral_of_scanNumber? {s number rest : List Char}
    (h : scanNumber? s = some (number, rest)) : s = number ++ rest ∧ Numeral number := by
  unfold scanNumber? at h
  split at h
  · obtain ⟨_, hr, rfl⟩ := exists_of_map_cons h
    obtain ⟨rfl, hmagnitude⟩ := magnitude_of_scanMagnitude? hr
    exact ⟨rfl, .negative hmagnitude⟩
  · obtain ⟨rfl, hmagnitude⟩ := magnitude_of_scanMagnitude? h
    exact ⟨rfl, .positive hmagnitude⟩

theorem scanNumber?_of_numeral {number rest : List Char} (h : Numeral number)
    (hrest : Ends rest) : scanNumber? (number ++ rest) = some (number, rest) := by
  cases h with
  | positive hmagnitude =>
      rw [← scanMagnitude?_of_magnitude hmagnitude hrest]
      -- the first character is a digit, so that no sign is taken off
      obtain ⟨c, s, rfl, hc⟩ := hmagnitude.exists_cons
      rw [List.cons_append]
      unfold scanNumber?
      split
      · next heq =>
          obtain ⟨rfl, -⟩ := List.cons.inj heq
          exact absurd hc (by decide)
      · rfl
  | negative hmagnitude =>
      rw [List.cons_append, scanNumber?, scanMagnitude?_of_magnitude hmagnitude hrest]
      rfl

/-! ### Strings -/

theorem hexDigit?_eq_some_iff {c : Char} {value : Nat} :
    Text.hexDigit? c = some value ↔ HexDigit c value := by
  have h0 : '0'.toNat = 48 := rfl
  have h9 : '9'.toNat = 57 := rfl
  have ha : 'a'.toNat = 97 := rfl
  have hf : 'f'.toNat = 102 := rfl
  have hA : 'A'.toNat = 65 := rfl
  have hF : 'F'.toNat = 70 := rfl
  simp only [Text.hexDigit?, HexDigit, Char.le_def, UInt32.le_iff_toNat_le, Char.toNat_val]
  split
  · rw [Option.some.injEq]
    omega
  · split
    · rw [Option.some.injEq]
      omega
    · split
      · rw [Option.some.injEq]
        omega
      · simp only [reduceCtorEq, false_iff]
        omega

theorem hexUnit?_eq_some_iff {c₃ c₂ c₁ c₀ : Char} {u : Nat} :
    hexUnit? c₃ c₂ c₁ c₀ = some u ↔ ∃ d₃ d₂ d₁ d₀, HexDigit c₃ d₃ ∧ HexDigit c₂ d₂ ∧
      HexDigit c₁ d₁ ∧ HexDigit c₀ d₀ ∧ u = d₃ * 0x1000 + d₂ * 0x100 + d₁ * 0x10 + d₀ := by
  simp only [hexUnit?, Option.bind_eq_bind, Option.bind_eq_some_iff, Option.pure_def,
    Option.some.injEq, hexDigit?_eq_some_iff]
  constructor
  · rintro ⟨d₃, h₃, d₂, h₂, d₁, h₁, d₀, h₀, rfl⟩
    exact ⟨d₃, d₂, d₁, d₀, h₃, h₂, h₁, h₀, by omega⟩
  · rintro ⟨d₃, d₂, d₁, d₀, h₃, h₂, h₁, h₀, rfl⟩
    exact ⟨d₃, h₃, d₂, h₂, d₁, h₁, d₀, h₀, by omega⟩

theorem shortEscape?_eq_some_iff {letter c : Char} :
    shortEscape? letter = some c ↔ (letter, c) ∈ shortEscapes := by
  constructor
  · intro h
    unfold shortEscape? at h
    repeat
      split at h
      · next heq =>
          subst heq
          cases h
          simp [shortEscapes]
    cases h
  · intro h
    simp only [shortEscapes, List.mem_cons, Prod.mk.injEq, List.not_mem_nil, or_false] at h
    rcases h with ⟨rfl, rfl⟩ | ⟨rfl, rfl⟩ | ⟨rfl, rfl⟩ | ⟨rfl, rfl⟩ | ⟨rfl, rfl⟩ | ⟨rfl, rfl⟩ |
      ⟨rfl, rfl⟩ | ⟨rfl, rfl⟩ <;> rfl

/-- A written item is scanned before the rest of the string. -/
theorem scanString?_written {item : Item} {s : List Char} (h : Written item s) (t : List Char) :
    scanString? (s ++ t) = (scanString? t).map fun r => (item :: r.1, r.2) := by
  cases h with
  | @plain c visible quote backslash =>
      have hvisible : ¬ c.toNat < 0x20 := by omega
      simp [scanString?, backslash, hvisible]
  | @short letter c escape =>
      have hc := shortEscape?_eq_some_iff.2 escape
      have hu : letter ≠ 'u' := by
        rintro rfl
        simp [shortEscapes] at escape
      simp [scanString?, hc, hu]
  | @unit c₃ c₂ c₁ c₀ d₃ d₂ d₁ d₀ h₃ h₂ h₁ h₀ =>
      have hu := hexUnit?_eq_some_iff.2 ⟨d₃, d₂, d₁, d₀, h₃, h₂, h₁, h₀, rfl⟩
      simp [scanString?, hu]

/-- **Scanning a string** takes the items up to the first quote that is none of them. -/
theorem scanString?_eq_some_iff {s : List Char} {items : List Item} {rest : List Char} :
    scanString? s = some (items, rest) ↔ ∃ p, s = p ++ '"' :: rest ∧ Quoted items p := by
  constructor
  · intro h
    fun_induction scanString? s generalizing items rest with
    | case1 => cases h
    | case2 tail =>
        cases h
        exact ⟨[], rfl, .nil⟩
    | case3 => cases h
    | case4 c₃ c₂ c₁ c₀ tail u hu ih =>
        obtain ⟨_, hr, rfl⟩ := exists_of_map_cons h
        obtain ⟨p, rfl, hp⟩ := ih hr
        obtain ⟨d₃, d₂, d₁, d₀, h₃, h₂, h₁, h₀, rfl⟩ := hexUnit?_eq_some_iff.1 hu
        exact ⟨_, rfl, .cons (.unit h₃ h₂ h₁ h₀) hp⟩
    | case5 => cases h
    | case6 letter tail _ c hc ih =>
        obtain ⟨_, hr, rfl⟩ := exists_of_map_cons h
        obtain ⟨p, rfl, hp⟩ := ih hr
        exact ⟨_, rfl, .cons (.short (shortEscape?_eq_some_iff.1 hc)) hp⟩
    | case7 => cases h
    | case8 c tail hquote _ _ hplain ih =>
        obtain ⟨_, hr, rfl⟩ := exists_of_map_cons h
        obtain ⟨p, rfl, hp⟩ := ih hr
        rw [not_or] at hplain
        refine ⟨_, rfl, .cons (.plain (by omega) ?_ hplain.2) hp⟩
        rintro rfl
        exact hquote rfl
  · rintro ⟨p, rfl, hp⟩
    induction hp with
    | nil => simp [scanString?]
    | cons first _ ih =>
        rw [List.append_assoc, scanString?_written first, ih]
        rfl

/-! ### Tokens -/

/-- **How a token is spelled.** -/
inductive Spelling : Token → List Char → Prop where
  | openArray : Spelling .openArray ['[']
  | closeArray : Spelling .closeArray [']']
  | openObject : Spelling .openObject ['\x7b']
  | closeObject : Spelling .closeObject ['\x7d']
  | comma : Spelling .comma [',']
  | colon : Spelling .colon [':']
  | null : Spelling .null "null".toList
  | boolTrue : Spelling (.bool true) "true".toList
  | boolFalse : Spelling (.bool false) "false".toList
  | number {s : List Char} (numeral : Numeral s) : Spelling (.number s) s
  | string {items : List Item} {s : List Char} (quoted : Quoted items s) :
      Spelling (.string items) ('"' :: (s ++ ['"']))

/-- What is scanned is a spelling of the token. -/
theorem spelling_of_scan? {s : List Char} {token : Token} {rest : List Char}
    (h : scan? s = some (token, rest)) : ∃ p, s = p ++ rest ∧ Spelling token p := by
  unfold scan? at h
  split at h
  case h_7 =>
    obtain ⟨r, hr, he⟩ := Option.map_eq_some_iff.1 h
    cases he
    obtain ⟨p, rfl, hp⟩ := scanString?_eq_some_iff.1 hr
    exact ⟨'"' :: (p ++ ['"']), by simp, .string hp⟩
  case h_11 =>
    obtain ⟨r, hr, he⟩ := Option.map_eq_some_iff.1 h
    cases he
    obtain ⟨rfl, hnumeral⟩ := numeral_of_scanNumber? hr
    exact ⟨_, rfl, .number hnumeral⟩
  all_goals
    cases h
  · exact ⟨_, rfl, .openArray⟩
  · exact ⟨_, rfl, .closeArray⟩
  · exact ⟨_, rfl, .openObject⟩
  · exact ⟨_, rfl, .closeObject⟩
  · exact ⟨_, rfl, .comma⟩
  · exact ⟨_, rfl, .colon⟩
  · exact ⟨_, rfl, .null⟩
  · exact ⟨_, rfl, .boolTrue⟩
  · exact ⟨_, rfl, .boolFalse⟩

theorem Grammar.Numeral.exists_cons {number : List Char} (h : Numeral number) :
    ∃ c s, number = c :: s ∧ (c.isDigit = true ∨ c = '-') := by
  cases h with
  | positive hmagnitude =>
      obtain ⟨c, s, rfl, hc⟩ := hmagnitude.exists_cons
      exact ⟨c, s, rfl, .inl hc⟩
  | negative _ => exact ⟨'-', _, rfl, .inr rfl⟩

/-- A digit or a sign begins no other token than a number. -/
theorem scan?_eq_scanNumber? {c : Char} (hc : c.isDigit = true ∨ c = '-') (s : List Char) :
    scan? (c :: s) = (scanNumber? (c :: s)).map fun r => (.number r.1, r.2) := by
  unfold scan?
  split
  case h_11 => rfl
  all_goals
    next heq =>
      obtain ⟨rfl, -⟩ := List.cons.inj heq
      exact absurd hc (by decide)

/-- **A spelled token is scanned**, unless it is a number that the rest continues. -/
theorem scan?_append {token : Token} {p rest : List Char} (h : Spelling token p)
    (hrest : ∀ digits, token = .number digits → Ends rest) :
    scan? (p ++ rest) = some (token, rest) := by
  cases h with
  | number hnumeral =>
      have hscan := scanNumber?_of_numeral hnumeral (hrest _ rfl)
      obtain ⟨c, s, rfl, hc⟩ := hnumeral.exists_cons
      rw [List.cons_append] at hscan ⊢
      rw [scan?_eq_scanNumber? hc, hscan]
      rfl
  | @string items s hquoted =>
      have hscan : scanString? (s ++ '"' :: rest) = some (items, rest) :=
        scanString?_eq_some_iff.2 ⟨s, rfl, hquoted⟩
      rw [List.cons_append, List.append_assoc, List.singleton_append, scan?, hscan]
      rfl
  | openArray => rfl
  | closeArray => rfl
  | openObject => rfl
  | closeObject => rfl
  | comma => rfl
  | colon => rfl
  | null => rfl
  | boolTrue => rfl
  | boolFalse => rfl

theorem isGap_eq_true_iff {c : Char} :
    isGap c = true ↔ c = ' ' ∨ c = '\t' ∨ c = '\n' ∨ c = '\r' := by
  simp [isGap, or_assoc]

/-- A spelling does not begin with white space. -/
theorem Spelling.exists_cons {token : Token} {p : List Char} (h : Spelling token p) :
    ∃ c s, p = c :: s ∧ isGap c = false := by
  cases h with
  | number hnumeral =>
      obtain ⟨c, s, rfl, hc⟩ := hnumeral.exists_cons
      refine ⟨c, s, rfl, ?_⟩
      cases hgap : isGap c with
      | false => rfl
      | true =>
          rcases isGap_eq_true_iff.1 hgap with rfl | rfl | rfl | rfl <;> exact absurd hc (by decide)
  | string _ => exact ⟨'"', _, rfl, rfl⟩
  | openArray => exact ⟨_, _, rfl, rfl⟩
  | closeArray => exact ⟨_, _, rfl, rfl⟩
  | openObject => exact ⟨_, _, rfl, rfl⟩
  | closeObject => exact ⟨_, _, rfl, rfl⟩
  | comma => exact ⟨_, _, rfl, rfl⟩
  | colon => exact ⟨_, _, rfl, rfl⟩
  | null => exact ⟨_, _, rfl, rfl⟩
  | boolTrue => exact ⟨_, _, rfl, rfl⟩
  | boolFalse => exact ⟨_, _, rfl, rfl⟩

/-! ### All tokens -/

theorem tokens?_gap {w : List Char} (h : Gap w) (s : List Char) :
    tokens? (w ++ s) = tokens? s := by
  induction w with
  | nil => rfl
  | cons c w ih =>
      have hc : isGap c = true := isGap_eq_true_iff.2 (h c List.mem_cons_self)
      have htail : tokens? (w ++ s) = tokens? s := ih fun d hd => h d (List.mem_cons_of_mem c hd)
      rw [List.cons_append, tokens?, if_pos hc, htail]

theorem tokens?_append {token : Token} {p rest : List Char} (h : Spelling token p)
    (hrest : ∀ digits, token = .number digits → Ends rest) :
    tokens? (p ++ rest) = (tokens? rest).map (token :: ·) := by
  have hscan := scan?_append h hrest
  obtain ⟨c, s, rfl, hc⟩ := h.exists_cons
  rw [List.cons_append] at hscan ⊢
  rw [tokens?, if_neg (by simp [hc])]
  split
  · next heq => rw [hscan] at heq; cases heq
  · next heq =>
      rw [hscan] at heq
      cases heq
      rfl

/-- A text as a sequence of tokens with white space around them. -/
inductive Spelled : List Token → List Char → Prop where
  | nil {w : List Char} (gap : Gap w) : Spelled [] w
  | cons {token : Token} {tokens : List Token} {w p s : List Char} (gap : Gap w)
      (first : Spelling token p) (rest : Spelled tokens s) :
      Spelled (token :: tokens) (w ++ p ++ s)

/-- White space may be longer. -/
theorem Spelled.cons_gap {c : Char} (hc : isGap c = true) {tokens : List Token} {s : List Char}
    (h : Spelled tokens s) : Spelled tokens (c :: s) := by
  have hgap : ∀ w : List Char, Gap w → Gap (c :: w) := by
    intro w hw d hd
    rcases List.mem_cons.1 hd with rfl | hd
    · exact isGap_eq_true_iff.1 hc
    · exact hw d hd
  cases h with
  | nil gap => exact .nil (hgap _ gap)
  | cons gap first rest => exact .cons (hgap _ gap) first rest

/-- **The tokens of a text spell it.** -/
theorem spelled_of_tokens? {s : List Char} {tokens : List Token} (h : tokens? s = some tokens) :
    Spelled tokens s := by
  fun_induction tokens? s generalizing tokens with
  | case1 =>
      cases h
      exact .nil (by simp [Gap])
  | case2 c s hc ih => exact (ih h).cons_gap hc
  | case3 => cases h
  | case4 c s hc token rest hscan _ ih =>
      obtain ⟨tokens, htokens, rfl⟩ := Option.map_eq_some_iff.1 h
      obtain ⟨p, hp, hspelling⟩ := spelling_of_scan? hscan
      rw [hp]
      exact .cons (w := []) (by simp [Gap]) hspelling (ih htokens)

/-! ### What a string stands for -/

theorem isHigh_eq_true_iff {u : Nat} : isHigh u = true ↔ 0xD800 ≤ u ∧ u ≤ 0xDBFF := by
  simp [isHigh]

theorem isLow_eq_true_iff {u : Nat} : isLow u = true ↔ 0xDC00 ≤ u ∧ u ≤ 0xDFFF := by
  simp [isLow]

/-- A unit that is no half of a pair stands for a character by itself. -/
theorem decode?_unit {u : Nat} (h : u < 0xD800 ∨ 0xDFFF < u) (items : List Item) :
    decode? (.unit u :: items) = (decode? items).map (Char.ofNat u :: ·) := by
  have hhigh : isHigh u = false := by
    rw [← Bool.not_eq_true, isHigh_eq_true_iff]
    omega
  have hlow : isLow u = false := by
    rw [← Bool.not_eq_true, isLow_eq_true_iff]
    omega
  rcases items with _ | ⟨_ | v, items⟩ <;> simp [decode?, hhigh, hlow]

/-- **A string has a text exactly if its items stand for it.** -/
theorem decode?_eq_some_iff {items : List Item} {text : List Char} :
    decode? items = some text ↔ StandsFor items text := by
  have whole : ∀ u, isHigh u = false → isLow u = false → u < 0xD800 ∨ 0xDFFF < u := by
    intro u hhigh hlow
    rw [← Bool.not_eq_true, isHigh_eq_true_iff] at hhigh
    rw [← Bool.not_eq_true, isLow_eq_true_iff] at hlow
    omega
  constructor
  · intro h
    fun_induction decode? items generalizing text with
    | case1 =>
        cases h
        exact .nil
    | case2 c items ih =>
        obtain ⟨t, ht, rfl⟩ := Option.map_eq_some_iff.1 h
        exact .char (ih ht)
    | case3 u v items hhigh hlow ih =>
        obtain ⟨t, ht, rfl⟩ := Option.map_eq_some_iff.1 h
        exact .pair (isHigh_eq_true_iff.1 hhigh) (isLow_eq_true_iff.1 hlow) (ih ht)
    | case4 => cases h
    | case5 => cases h
    | case6 u v items hhigh hlow ih =>
        obtain ⟨t, ht, rfl⟩ := Option.map_eq_some_iff.1 h
        exact .unit (whole u (by simpa using hhigh) (by simpa using hlow)) (ih ht)
    | case7 => cases h
    | case8 u items _ hhalf ih =>
        obtain ⟨t, ht, rfl⟩ := Option.map_eq_some_iff.1 h
        rw [Bool.or_eq_true, not_or] at hhalf
        exact .unit (whole u (by simpa using hhalf.1) (by simpa using hhalf.2)) (ih ht)
  · intro h
    induction h with
    | nil => rfl
    | char _ ih =>
        rw [decode?, ih]
        rfl
    | unit hwhole _ ih =>
        rw [decode?_unit hwhole, ih]
        rfl
    | pair high low _ ih =>
        rw [decode?, if_pos (isHigh_eq_true_iff.2 high), if_pos (isLow_eq_true_iff.2 low), ih]
        rfl

end CommandBot.Json
