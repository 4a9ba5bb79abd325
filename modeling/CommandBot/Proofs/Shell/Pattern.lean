/-
**Which texts fit a pattern.**

A text fits a pattern if it can be cut so that every element has its part: a star any part, and every
other element one octet.  Where a sign is quoted it has no meaning, so a pattern of quoted and of
ordinary octets is fitted by its own text alone.  A value is trimmed at the shortest or the longest
beginning or end that fits.

Main definitions:

* `CommandBot.Shell.Pattern.Fits` — a text that fits some elements;
* `CommandBot.Shell.Pattern.IsExtreme` — the shortest or the longest length with a property.

Main results:

* `CommandBot.Shell.Pattern.fits_iff` — **what is tested is whether the text fits**;
* `CommandBot.Shell.Pattern.fits_ofGlyphs_iff` — **quoted octets fit themselves alone**;
* `CommandBot.Shell.Pattern.beginning?_eq_some_iff`, `CommandBot.Shell.Pattern.ending?_eq_some_iff` —
  what is cut off is the shortest or the longest that fits.
-/

import CommandBot.Shell.Pattern
import Mathlib.Data.List.TakeWhile

set_option relaxedAutoImplicit false
set_option autoImplicit false

namespace CommandBot.Shell.Pattern

variable {rest pieces : List Element} {s text : Octets}

/-! ### Fitting -/

/-- **A text that fits some elements**, part by part. -/
inductive Fits : List Element → Octets → Prop where
  | nil : Fits [] []
  | many {rest : List Element} {back : Octets} (front : Octets) (h : Fits rest back) :
      Fits (.many :: rest) (front ++ back)
  | one {element : Element} {rest : List Element} {c : Char} {back : Octets}
      (single : element ≠ .many) (admitted : element.admits c = true) (h : Fits rest back) :
      Fits (element :: rest) (c :: back)

@[simp] theorem fits_nil_iff : Fits [] s ↔ s = [] := by
  constructor
  · rintro ⟨⟩
    rfl
  · rintro rfl
    exact .nil

theorem fits_many_iff : Fits (.many :: rest) s ↔ ∃ front back, s = front ++ back ∧ Fits rest back := by
  constructor
  · intro h
    cases h with
    | many front h => exact ⟨front, _, rfl, h⟩
    | one single => exact absurd rfl single
  · rintro ⟨front, back, rfl, h⟩
    exact .many front h

theorem fits_one_iff {element : Element} (h : element ≠ .many) :
    Fits (element :: rest) s ↔ ∃ c back, s = c :: back ∧ element.admits c = true ∧ Fits rest back := by
  constructor
  · intro hfits
    cases hfits with
    | many front hrest => exact absurd rfl h
    | one single admitted hrest => exact ⟨_, _, rfl, admitted, hrest⟩
  · rintro ⟨c, back, rfl, hadmitted, hrest⟩
    exact .one h hadmitted hrest

theorem mem_endings {back : Octets} : back ∈ endings s ↔ back <:+ s := by
  induction s with
  | nil => simp [endings]
  | cons c s ih => rw [endings, List.mem_cons, ih, List.suffix_cons_iff]

theorem fitsElements_one {element : Element} (h : element ≠ .many) (c : Char) (s : Octets) :
    fitsElements (element :: rest) (c :: s) = (element.admits c && fitsElements rest s) := by
  cases element with
  | many => exact absurd rfl h
  | literal d => rfl
  | any => rfl
  | oneOf inverted members => rfl

theorem fitsElements_one_nil {element : Element} (h : element ≠ .many) :
    fitsElements (element :: rest) [] = false := by
  cases element with
  | many => exact absurd rfl h
  | literal d => rfl
  | any => rfl
  | oneOf inverted members => rfl

/-- Whether a text fits is what is tested. -/
theorem fitsElements_iff : fitsElements pieces s = true ↔ Fits pieces s := by
  induction pieces generalizing s with
  | nil => simp [fitsElements]
  | cons element rest ih =>
      by_cases hmany : element = .many
      · rw [hmany, fits_many_iff, fitsElements, List.any_eq_true]
        constructor
        · rintro ⟨back, hback, hfits⟩
          obtain ⟨front, rfl⟩ := mem_endings.1 hback
          exact ⟨front, back, rfl, ih.1 hfits⟩
        · rintro ⟨front, back, rfl, hfits⟩
          exact ⟨back, mem_endings.2 (List.suffix_append front back), ih.2 hfits⟩
      · rw [fits_one_iff hmany]
        cases s with
        | nil => simp [fitsElements_one_nil hmany]
        | cons c s =>
            rw [fitsElements_one hmany, Bool.and_eq_true, ih]
            constructor
            · rintro ⟨hadmitted, hfits⟩
              exact ⟨c, s, rfl, hadmitted, hfits⟩
            · rintro ⟨_, _, hsame, hadmitted, hfits⟩
              cases hsame
              exact ⟨hadmitted, hfits⟩

/-- Two stars mean what one means. -/
theorem fits_many_many_iff : Fits (.many :: .many :: rest) s ↔ Fits (.many :: rest) s := by
  simp only [fits_many_iff]
  constructor
  · rintro ⟨front, _, rfl, middle, back, rfl, h⟩
    exact ⟨front ++ middle, back, (List.append_assoc _ _ _).symm, h⟩
  · rintro ⟨front, back, rfl, h⟩
    exact ⟨[], _, rfl, front, back, rfl, h⟩

/-- What comes after one element does not matter to how it is fitted. -/
theorem fits_cons_congr {element : Element} {rest' : List Element}
    (h : ∀ s, Fits rest s ↔ Fits rest' s) (s : Octets) :
    Fits (element :: rest) s ↔ Fits (element :: rest') s := by
  by_cases hmany : element = .many
  · simp only [hmany, fits_many_iff, h]
  · simp only [fits_one_iff hmany, h]

theorem fits_joinStars_iff : Fits (joinStars pieces) s ↔ Fits pieces s := by
  induction pieces using joinStars.induct generalizing s with
  | case1 rest ih => rw [joinStars, ih, fits_many_many_iff]
  | case2 element rest hnot ih =>
      rw [joinStars]
      · exact fits_cons_congr (fun _ => ih) s
      · exact hnot
  | case3 => rfl

/-- **What is tested is whether the text fits.** -/
theorem fits_iff {pattern : Octets} : fits pattern text = true ↔ Fits (elements pattern) text := by
  rw [fits, fitsElements_iff, fits_joinStars_iff]

/-! ### Quoted octets -/

/-- The octets that mean something in a pattern. -/
def signs : List Char := ['*', '?', '[', '\\']

/-- A glyph as it is written in a pattern. -/
def written : Glyph → Octets
  | .plain c => [c]
  | .guarded c => ['\\', c]
  | .quote => []

/-- Glyphs of which none that is not quoted is a sign. -/
def Plain (glyphs : List Glyph) : Prop := ∀ c, .plain c ∈ glyphs → c ∉ signs

theorem Plain.tail {g : Glyph} {glyphs : List Glyph} (h : Plain (g :: glyphs)) : Plain glyphs :=
  fun c hc => h c (List.mem_cons_of_mem g hc)

theorem ofGlyphs_of_plain {glyphs : List Glyph} (h : Plain glyphs) :
    ofGlyphs false glyphs = glyphs.flatMap written := by
  induction glyphs with
  | nil => rfl
  | cons g glyphs ih =>
      rw [List.flatMap_cons, ← ih h.tail]
      cases g with
      | quote => rfl
      | guarded c => rfl
      | plain c =>
          have hslash : c ≠ '\\' := by
            rintro rfl
            exact h _ List.mem_cons_self (by decide)
          rw [ofGlyphs]
          · rfl
          · exact hslash

theorem elementsIn_literal {c : Char} (h : c ∉ signs) (fuel : Nat) (s : Octets) :
    elementsIn (fuel + 1) (c :: s) = .literal c :: elementsIn fuel s := by
  simp only [signs, List.mem_cons, List.not_mem_nil, or_false, not_or] at h
  obtain ⟨hstar, hmark, hbracket, hslash⟩ := h
  rw [elementsIn]
  · exact hstar
  · exact hmark
  · exact hbracket
  · exact fun _ _ heq => absurd heq hslash

theorem length_flatMap_written_cons (g : Glyph) (glyphs : List Glyph) :
    ((g :: glyphs).flatMap written).length =
      (written g).length + (glyphs.flatMap written).length := by
  rw [List.flatMap_cons, List.length_append]

theorem elementsIn_written {glyphs : List Glyph} (h : Plain glyphs) {fuel : Nat}
    (hfuel : (glyphs.flatMap written).length ≤ fuel) :
    elementsIn fuel (glyphs.flatMap written) = (Glyph.text glyphs).map .literal := by
  induction glyphs generalizing fuel with
  | nil =>
      cases fuel with
      | zero => rfl
      | succ fuel => rfl
  | cons g glyphs ih =>
      rw [length_flatMap_written_cons] at hfuel
      rw [List.flatMap_cons]
      cases g with
      | quote => exact ih h.tail (by simpa [written] using hfuel)
      | plain c =>
          have hone : (written (.plain c)).length = 1 := rfl
          obtain ⟨fuel, rfl⟩ : ∃ n, fuel = n + 1 := ⟨fuel - 1, by omega⟩
          rw [written, List.singleton_append, elementsIn_literal (h c List.mem_cons_self),
            ih h.tail (by omega)]
          rfl
      | guarded c =>
          have htwo : (written (.guarded c)).length = 2 := rfl
          obtain ⟨fuel, rfl⟩ : ∃ n, fuel = n + 1 := ⟨fuel - 1, by omega⟩
          have hstep : elementsIn (fuel + 1) (written (.guarded c) ++ glyphs.flatMap written) =
              .literal c :: elementsIn fuel (glyphs.flatMap written) := rfl
          rw [hstep, ih h.tail (by omega)]
          rfl

theorem fits_literals_iff : Fits (s.map .literal) text ↔ text = s := by
  induction s generalizing text with
  | nil => exact fits_nil_iff
  | cons c s ih =>
      rw [List.map_cons, fits_one_iff (by simp)]
      constructor
      · rintro ⟨d, back, rfl, hadmitted, h⟩
        obtain rfl : d = c := by simpa [Element.admits] using hadmitted
        rw [ih.1 h]
      · rintro rfl
        exact ⟨c, s, rfl, by simp [Element.admits], ih.2 rfl⟩

/-- **Quoted octets fit themselves alone**, and so do those that mean nothing. -/
theorem fits_ofGlyphs_iff {glyphs : List Glyph} (h : Plain glyphs) :
    fits (ofGlyphs false glyphs) text = true ↔ text = Glyph.text glyphs := by
  rw [fits_iff, elements, ofGlyphs_of_plain h, elementsIn_written h (Nat.le_refl _),
    fits_literals_iff]

/-- A quoted star is no star. -/
example : fits "*.png".toList "sun.png".toList = true ∧
    fits "\\*.png".toList "sun.png".toList = false := by decide

/-! ### Trimming -/

/-- The shortest or the longest of the lengths up to a bound that have a property. -/
def IsExtreme (longest : Bool) (bound : Nat) (P : Nat → Prop) (n : Nat) : Prop :=
  n ≤ bound ∧ P n ∧ ∀ k ≤ bound, P k → if longest then k ≤ n else n ≤ k

/-- In a list in some order the first of those with a property is found. -/
theorem find?_eq_some_iff_of_pairwise {r : Nat → Nat → Prop} {l : List Nat} {P : Nat → Bool} {n : Nat}
    (hl : l.Pairwise r) (hr : ∀ a b, r a b → ¬ r b a) :
    l.find? P = some n ↔ n ∈ l ∧ P n = true ∧ ∀ k ∈ l, P k = true → k = n ∨ r n k := by
  rw [List.find?_eq_some_iff_append]
  constructor
  · rintro ⟨hn, before, after, rfl, hbefore⟩
    refine ⟨by simp, hn, fun k hk hpk => ?_⟩
    rcases List.mem_append.1 hk with hk | hk
    · have hfails := hbefore k hk
      rw [hpk] at hfails
      cases hfails
    · rcases List.mem_cons.1 hk with rfl | hk
      · exact .inl rfl
      · exact .inr (List.rel_of_pairwise_cons (List.pairwise_append.1 hl).2.1 hk)
  · rintro ⟨hmem, hn, hfirst⟩
    obtain ⟨before, after, rfl⟩ := List.append_of_mem hmem
    refine ⟨hn, before, after, rfl, fun k hk => ?_⟩
    have hkn : r k n := (List.pairwise_append.1 hl).2.2 k hk n List.mem_cons_self
    cases hpk : P k with
    | false => rfl
    | true =>
        rcases hfirst k (List.mem_append_left _ hk) hpk with rfl | hnk
        · exact absurd hkn (hr k k hkn)
        · exact absurd hnk (hr k n hkn)

theorem find?_numbers_eq_some_iff {longest : Bool} {bound n : Nat} {P : Nat → Bool} :
    (numbers longest bound).find? P = some n ↔ IsExtreme longest bound (fun k => P k = true) n := by
  have hlt : (List.range (bound + 1)).Pairwise (· < ·) := List.pairwise_lt_range
  have hgt : (List.range (bound + 1)).reverse.Pairwise fun a b => b < a := List.pairwise_reverse.2 hlt
  cases longest with
  | false =>
      rw [numbers, if_neg (by simp),
        find?_eq_some_iff_of_pairwise hlt fun a b hab => Nat.lt_asymm hab]
      simp only [IsExtreme, List.mem_range, Nat.lt_succ_iff, Bool.false_eq_true, if_false]
      refine and_congr_right fun _ => and_congr_right fun _ => forall_congr' fun k => ?_
      refine imp_congr_right fun _ => imp_congr_right fun _ => ?_
      omega
  | true =>
      rw [numbers, if_pos rfl,
        find?_eq_some_iff_of_pairwise hgt fun a b hab => Nat.lt_asymm hab]
      simp only [IsExtreme, List.mem_reverse, List.mem_range, Nat.lt_succ_iff, if_true]
      refine and_congr_right fun _ => and_congr_right fun _ => forall_congr' fun k => ?_
      refine imp_congr_right fun _ => imp_congr_right fun _ => ?_
      omega

/-- One argument is looked at as a whole. -/
theorem firstArgument_of_not_mem (h : argumentEnd ∉ s) : firstArgument s = s := by
  refine List.takeWhile_eq_self_iff.2 fun c hc => ?_
  have hne : c ≠ argumentEnd := by
    rintro rfl
    exact h hc
  simpa using hne

/-- **The beginning that is cut off is the shortest or the longest that fits.** -/
theorem beginning?_eq_some_iff {longest : Bool} {n : Nat} (h : argumentEnd ∉ text) :
    beginning? longest pieces text = some n ↔
      IsExtreme longest text.length (fun k => Fits pieces (text.take k)) n := by
  have htake : ∀ k, firstArgument (text.take k) = text.take k := fun k =>
    firstArgument_of_not_mem fun hmem => h (List.mem_of_mem_take hmem)
  simp only [beginning?, firstArgument_of_not_mem h, htake, ite_self, find?_numbers_eq_some_iff,
    fitsElements_iff]

/-- **The end that is cut off is the shortest or the longest that fits**: it begins as late or as
early as it can. -/
theorem ending?_eq_some_iff {longest : Bool} {n : Nat} (h : argumentEnd ∉ text) :
    ending? longest pieces text = some n ↔
      IsExtreme (!longest) text.length (fun k => Fits pieces (text.drop k)) n := by
  have hdrop : ∀ k, firstArgument (text.drop k) = text.drop k := fun k =>
    firstArgument_of_not_mem fun hmem => h (List.mem_of_mem_drop hmem)
  simp only [ending?, firstArgument_of_not_mem h, hdrop, ite_self, find?_numbers_eq_some_iff,
    fitsElements_iff]

end CommandBot.Shell.Pattern
