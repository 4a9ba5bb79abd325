/-
**Forms read back.**

What a form shows of a text is written without the marks that divide forms and addresses.  So the
parts of a form are where they were put, and each of them stands for the text it was written from.

Main definitions:

* `CommandBot.Text.Form.encodeByte` — what a form shows of one byte;
* `CommandBot.Text.Form.IsDivider` — a mark that no byte is shown with.

Main results:

* `CommandBot.Text.Form.not_mem_encodeText` — **a text is shown without dividing marks**;
* `CommandBot.Text.Form.decodeText_encodeText` — a name or value is read as it was written;
* `CommandBot.Text.Form.decode_encode` — **the pairs of a form are those it was written from.**
-/

import CommandBot.Proofs.Text.Percent
import CommandBot.Proofs.Text.Utf8

set_option relaxedAutoImplicit false
set_option autoImplicit false

namespace CommandBot.Text

namespace Form

/-! ### Bytes -/

/-- What a form shows of a byte. -/
def encodeByte (b : UInt8) : List Char :=
  if b = 32 then ['+'] else if isPlain b then [Char.ofNat b.toNat] else Percent.escape b

variable {b : UInt8} {mark : Char}

theorem encodeByte_cases (b : UInt8) :
    (b = 32 ∧ encodeByte b = ['+']) ∨
      (isPlain b = true ∧ encodeByte b = [Char.ofNat b.toNat]) ∨
      encodeByte b = Percent.escape b := by
  rw [encodeByte]
  split
  · next hspace => exact .inl ⟨hspace, rfl⟩
  · split
    · next hplain => exact .inr (.inl ⟨hplain, rfl⟩)
    · exact .inr (.inr rfl)

/-- A byte that stands for itself is not shown as a character whose byte does not. -/
theorem ofNat_ne_of_isPlain (h : isPlain b = true)
    (hmark : isPlain (UInt8.ofNat mark.toNat) = false) : Char.ofNat b.toNat ≠ mark := by
  rintro rfl
  rw [Percent.toNat_ofNat_toNat, UInt8.ofNat_toNat, h] at hmark
  cases hmark

theorem lt_of_isPlain (h : isPlain b = true) : b.toNat < 128 := by
  simp only [isPlain, Bool.or_eq_true, Bool.and_eq_true, decide_eq_true_eq, beq_iff_eq,
    UInt8.le_iff_toNat_le, ← UInt8.toNat_inj] at h
  simp at h
  omega

/-! ### Dividing marks -/

/-- A mark that no byte is shown with. -/
structure IsDivider (mark : Char) : Prop where
  ne_plus : mark ≠ '+'
  ne_percent : mark ≠ '%'
  noDigit : hexDigit? mark = none
  notPlain : isPlain (UInt8.ofNat mark.toNat) = false

theorem isDivider_ampersand : IsDivider '&' := ⟨by decide, by decide, rfl, rfl⟩

theorem isDivider_equals : IsDivider '=' := ⟨by decide, by decide, rfl, rfl⟩

theorem isDivider_hash : IsDivider '#' := ⟨by decide, by decide, rfl, rfl⟩

theorem IsDivider.ne_upperHexDigit (h : IsDivider mark) {n : Nat} (hn : n < 16) :
    mark ≠ upperHexDigit n := by
  rintro rfl
  have hdigit := h.noDigit
  rw [hexDigit?_upperHexDigit hn] at hdigit
  cases hdigit

theorem not_mem_encodeByte (h : IsDivider mark) (b : UInt8) : mark ∉ encodeByte b := by
  have hbyte : b.toNat < 256 := b.toNat_lt
  rcases encodeByte_cases b with ⟨_, hshown⟩ | ⟨hplain, hshown⟩ | hshown
  · rw [hshown, List.mem_singleton]
    exact h.ne_plus
  · rw [hshown, List.mem_singleton]
    exact (ofNat_ne_of_isPlain hplain h.notPlain).symm
  · rw [hshown, Percent.escape]
    simp only [List.mem_cons, List.not_mem_nil, or_false, not_or]
    exact ⟨h.ne_percent, h.ne_upperHexDigit (by omega), h.ne_upperHexDigit (by omega)⟩

/-! ### Names and values -/

theorem encodeText_eq (s : String) :
    encodeText s = (Utf8.bytes s.toList).flatMap encodeByte := rfl

/-- **A text is shown without dividing marks.** -/
theorem not_mem_encodeText (h : IsDivider mark) (s : String) : mark ∉ encodeText s := by
  rw [encodeText_eq, List.mem_flatMap]
  rintro ⟨b, -, hb⟩
  exact not_mem_encodeByte h b hb

/-- Where a form shows a plus, it means a space. -/
def spaced (c : Char) : Char := if c = '+' then ' ' else c

theorem decodeText_eq (s : List Char) :
    decodeText s = String.ofList (Utf8.decodeLossy (Percent.decode (s.map spaced))) := rfl

theorem spaced_of_ne {c : Char} (h : c ≠ '+') : spaced c = c := if_neg h

theorem map_spaced_escape (b : UInt8) : (Percent.escape b).map spaced = Percent.escape b := by
  have hbyte : b.toNat < 256 := b.toNat_lt
  have hdigit : ∀ n, n < 16 → upperHexDigit n ≠ '+' := by decide
  rw [Percent.escape, List.map_cons, List.map_cons, List.map_singleton,
    spaced_of_ne (by decide), spaced_of_ne (hdigit _ (by omega)),
    spaced_of_ne (hdigit _ (by omega))]

/-- What is shown of a byte stands for it. -/
theorem decode_encodeByte (b : UInt8) (s : List Char) :
    Percent.decode ((encodeByte b).map spaced ++ s) = b :: Percent.decode s := by
  rcases encodeByte_cases b with ⟨rfl, hshown⟩ | ⟨hplain, hshown⟩ | hshown
  · rw [hshown]
    exact Percent.decode_cons_of_ne (by decide) s
  · have hplus : Char.ofNat b.toNat ≠ '+' := ofNat_ne_of_isPlain hplain rfl
    have hpercent : Char.ofNat b.toNat ≠ '%' := ofNat_ne_of_isPlain hplain rfl
    rw [hshown, List.map_singleton, spaced_of_ne hplus, List.singleton_append,
      Percent.decode_cons_of_ne hpercent,
      Percent.utf8EncodeChar_ofNat (lt_of_isPlain hplain), List.singleton_append]
  · rw [hshown, map_spaced_escape, Percent.decode_escape]

theorem decode_encodeBytes (bytes : List UInt8) :
    Percent.decode ((bytes.flatMap encodeByte).map spaced) = bytes := by
  induction bytes with
  | nil => rfl
  | cons b bytes ih => rw [List.flatMap_cons, List.map_append, decode_encodeByte, ih]

/-- **A name or value is read as it was written.** -/
theorem decodeText_encodeText (s : String) : decodeText (encodeText s) = s := by
  rw [decodeText_eq, encodeText_eq, decode_encodeBytes, Utf8.decodeLossy_bytes,
    String.ofList_toList]

/-! ### Pairs -/

theorem decodePair_encodePair (pair : String × String) : decodePair (encodePair pair) = pair := by
  have hsplit : splitAtFirst? '=' (encodePair pair) =
      some (encodeText pair.1, encodeText pair.2) :=
    splitAtFirst?_eq_some_iff.2 ⟨rfl, not_mem_encodeText isDivider_equals pair.1⟩
  rw [decodePair, hsplit]
  exact Prod.ext (decodeText_encodeText pair.1) (decodeText_encodeText pair.2)

/-- The only dividing mark in a pair is the one between name and value. -/
theorem not_mem_encodePair (h : IsDivider mark) (hmark : mark ≠ '=') (pair : String × String) :
    mark ∉ encodePair pair := by
  rw [encodePair, List.mem_append, List.mem_cons]
  rintro (hname | hequals | hvalue)
  · exact not_mem_encodeText h pair.1 hname
  · exact hmark hequals
  · exact not_mem_encodeText h pair.2 hvalue

theorem isEmpty_encodePair (pair : String × String) : (encodePair pair).isEmpty = false := by
  rw [encodePair]
  cases encodeText pair.1 <;> rfl

/-- The parts between the marks of a form are its pairs. -/
theorem splitOn_encode {pairs : List (String × String)} (h : pairs ≠ []) :
    (encode pairs).splitOn '&' = pairs.map encodePair := by
  refine List.splitOn_intercalate '&' ?_ (by simpa using h)
  intro part hpart
  obtain ⟨pair, -, rfl⟩ := List.mem_map.1 hpart
  exact not_mem_encodePair isDivider_ampersand (by decide) pair

/-- **The pairs of a form are those it was written from**, whatever their names and values. -/
theorem decode_encode (pairs : List (String × String)) : decode (encode pairs) = pairs := by
  by_cases hpairs : pairs = []
  · rw [hpairs]
    rfl
  · have hkept : (pairs.map encodePair).filter (fun part => !part.isEmpty) =
        pairs.map encodePair := by
      refine List.filter_eq_self.2 fun part hpart => ?_
      obtain ⟨pair, -, rfl⟩ := List.mem_map.1 hpart
      rw [isEmpty_encodePair]
      rfl
    rw [decode, splitOn_encode hpairs, hkept, List.map_map]
    calc pairs.map (decodePair ∘ encodePair)
      _ = pairs.map id := List.map_congr_left fun pair _ => decodePair_encodePair pair
      _ = pairs := List.map_id pairs

/-- **A form has no other dividing mark** than those between its pairs and within them. -/
theorem not_mem_encode (h : IsDivider mark) (hequals : mark ≠ '=') (hampersand : mark ≠ '&')
    (pairs : List (String × String)) : mark ∉ encode pairs := by
  rw [encode]
  induction pairs with
  | nil => simp
  | cons pair pairs ih =>
      have hpair := not_mem_encodePair h hequals pair
      cases pairs with
      | nil => rwa [List.map_singleton, List.intercalate_singleton]
      | cons next pairs =>
          rw [List.map_cons, List.map_cons, List.intercalate_cons_cons, List.mem_append,
            List.mem_append, List.mem_singleton]
          rintro ((hfirst | hbetween) | hrest)
          · exact hpair hfirst
          · exact hampersand hbetween
          · exact ih hrest

end Form

end CommandBot.Text
