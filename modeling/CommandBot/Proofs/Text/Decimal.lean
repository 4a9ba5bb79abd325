/-
**Numerals read back.**

Writing a number in decimal and reading the text gives the number again, as long as it is below the
limit of the reader.

* `CommandBot.Text.Decimal.readFrom?_of_isDigit` — a run of digits is read as its value;
* `CommandBot.Text.Decimal.readUnsigned?_repr`, `CommandBot.Text.Decimal.readSigned?_toString` — **a
  written number reads as itself**;
* `CommandBot.Text.Decimal.length_padded`, `CommandBot.Text.Decimal.ofDigitChars_padded` — a number
  that fits on its places fills them, and they show it.
-/

import CommandBot.Text.Decimal

set_option relaxedAutoImplicit false
set_option autoImplicit false

namespace CommandBot.Text.Decimal

theorem digit?_of_isDigit {c : Char} (h : c.isDigit = true) :
    digit? c = some (c.toNat - '0'.toNat) := by
  have hrange : '0' ≤ c ∧ c ≤ '9' := by
    simpa [Char.isDigit, Char.le_def] using h
  rw [digit?, if_pos hrange]
  rfl

/-- A run of digits is read as its value. -/
theorem readFrom?_of_isDigit {s : List Char} (h : ∀ c ∈ s, c.isDigit = true) (value : Nat) :
    readFrom? value s = some (Nat.ofDigitChars 10 s value) := by
  induction s generalizing value with
  | nil => simp [readFrom?]
  | cons c rest ih =>
      rw [readFrom?, digit?_of_isDigit (h c (by simp)), Nat.ofDigitChars_cons, Nat.mul_comm]
      exact ih (fun d hd => h d (by simp [hd])) _

theorem isDigit_of_mem_repr {n : Nat} {c : Char} (hc : c ∈ n.repr.toList) : c.isDigit = true := by
  rw [Nat.toList_repr] at hc
  exact Nat.isDigit_of_mem_toDigits (by decide) (by decide) hc

theorem toList_repr_ne_nil (n : Nat) : n.repr.toList ≠ [] := by simp

/-- The digits of a number are read as it. -/
theorem readDigits?_repr (n : Nat) : readDigits? n.repr.toList = some n := by
  have hdigits : ∀ c ∈ n.repr.toList, c.isDigit = true := fun c => isDigit_of_mem_repr
  rw [Nat.toList_repr] at hdigits ⊢
  cases hs : Nat.toDigits 10 n with
  | nil => exact absurd hs (by simp)
  | cons c rest =>
      rw [readDigits?, readFrom?_of_isDigit (hs ▸ hdigits), ← hs, Nat.ofDigitChars_ten_toDigits]

/-- Digits begin with no sign. -/
theorem repr_head_ne {n : Nat} {c sign : Char} {rest : List Char} (h : n.repr.toList = c :: rest)
    (hsign : sign.isDigit = false) : c ≠ sign := by
  rintro rfl
  rw [isDigit_of_mem_repr (h ▸ List.mem_cons_self)] at hsign
  cases hsign

/-- **A written number reads as itself.** -/
theorem readUnsigned?_repr {limit n : Nat} (h : n < limit) :
    readUnsigned? limit n.repr.toList = some n := by
  have hread := readDigits?_repr n
  cases hs : n.repr.toList with
  | nil => exact absurd hs (toList_repr_ne_nil n)
  | cons c rest =>
      have hplus : c ≠ '+' := repr_head_ne hs (by decide)
      rw [hs] at hread
      simp [readUnsigned?, hplus, hread, h]

theorem toList_toString_negSucc (n : Nat) :
    (toString (Int.negSucc n)).toList = '-' :: (n + 1).repr.toList := by
  show ("-" ++ (n + 1).repr).toList = _
  rw [String.toList_append]
  rfl

/-- A number is written with digits and a minus. -/
theorem isDigit_or_of_mem_toString {n : Int} {c : Char} (hc : c ∈ (toString n).toList) :
    c.isDigit = true ∨ c = '-' := by
  cases n with
  | ofNat n => exact .inl (isDigit_of_mem_repr (n := n) hc)
  | negSucc n =>
      rw [toList_toString_negSucc, List.mem_cons] at hc
      exact hc.symm.imp_left isDigit_of_mem_repr

theorem toList_toString_ne_nil (n : Int) : (toString n).toList ≠ [] := by
  cases n with
  | ofNat n => exact toList_repr_ne_nil n
  | negSucc n => rw [toList_toString_negSucc]; exact List.cons_ne_nil _ _

/-- **So does a number with a sign**, if it has 64 bits. -/
theorem readSigned?_toString {n : Int} (hlow : -0x8000000000000000 ≤ n)
    (hhigh : n < 0x8000000000000000) : readSigned? (toString n).toList = some n := by
  cases n with
  | ofNat n =>
      rw [Int.ofNat_eq_natCast] at hhigh
      have hsmall : n < 0x8000000000000000 := by omega
      have hread := readUnsigned?_repr hsmall
      show readSigned? n.repr.toList = _
      cases hs : n.repr.toList with
      | nil => exact absurd hs (toList_repr_ne_nil n)
      | cons c rest =>
          have hminus : c ≠ '-' := repr_head_ne hs (by decide)
          rw [hs] at hread
          rw [readSigned?]
          · rw [hread]
            rfl
          · rintro rest' ⟨⟩
            exact hminus rfl
  | negSucc n =>
      have hsmall : n + 1 ≤ 0x8000000000000000 := by omega
      rw [toList_toString_negSucc, readSigned?, readDigits?_repr]
      dsimp only
      rw [if_pos hsmall]
      rfl

/-! ### Numbers on so many places -/

theorem isDigit_of_mem_padded {places n : Nat} {c : Char} (hc : c ∈ padded places n) :
    c.isDigit = true := by
  rcases List.mem_append.1 hc with hzero | hdigit
  · obtain rfl := List.eq_of_mem_replicate hzero
    rfl
  · exact Nat.isDigit_of_mem_toDigits (by decide) (by decide) hdigit

/-- A number that fits on its places fills them. -/
theorem length_padded {places n : Nat} (hplaces : 0 < places) (h : n < Nat.pow 10 places) :
    (padded places n).length = places := by
  have hlength : (Nat.toDigits 10 n).length ≤ places :=
    (Nat.length_toDigits_le_iff (by decide) hplaces).2 h
  simp only [padded, List.length_append, List.length_replicate]
  omega

theorem ofDigitChars_padded (places n : Nat) : Nat.ofDigitChars 10 (padded places n) 0 = n := by
  rw [padded, Nat.ofDigitChars_append, Nat.ofDigitChars_replicate_zero, Nat.mul_zero,
    Nat.ofDigitChars_ten_toDigits]

end CommandBot.Text.Decimal
