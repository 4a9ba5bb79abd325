/-
**Bytes read back.**

The bytes of a text stand for that text: reading them puts every character together again, however
many bytes it takes, and no replacement character is shown.

* `CommandBot.Text.Utf8.Expect.ofLead?_two`, `CommandBot.Text.Utf8.Expect.ofLead?_three`,
  `CommandBot.Text.Utf8.Expect.ofLead?_four` — what the first byte of a longer character announces;
* `CommandBot.Text.Utf8.decodeFrom_utf8EncodeChar` — the bytes of one character are read as it;
* `CommandBot.Text.Utf8.decodeLossy_bytes` — **the bytes of a text are read as that text.**
-/

import CommandBot.Text.Utf8
import Mathlib.Tactic.IntervalCases

set_option relaxedAutoImplicit false
set_option autoImplicit false

namespace CommandBot.Text.Utf8

/-! ### First bytes -/

theorem Expect.ofLead?_two {n : Nat} (hlow : 2 ≤ n) (hhigh : n < 32) :
    Expect.ofLead? (n + 192) = some ⟨0x80, 0xBF, 0, n⟩ := by
  interval_cases n <;> rfl

/-- The second byte of three keeps out overlong forms and surrogates. -/
theorem Expect.ofLead?_three {n : Nat} (h : n < 16) :
    Expect.ofLead? (n + 224) =
      some ⟨if n = 0 then 0xA0 else 0x80, if n = 0xD then 0x9F else 0xBF, 1, n⟩ := by
  interval_cases n <;> rfl

/-- The second byte of four keeps out overlong forms and what is past the last code point. -/
theorem Expect.ofLead?_four {n : Nat} (h : n ≤ 4) :
    Expect.ofLead? (n + 240) =
      some ⟨if n = 0 then 0x90 else 0x80, if n = 4 then 0x8F else 0xBF, 2, n⟩ := by
  interval_cases n <;> rfl

/-! ### One byte further -/

variable {b : UInt8} {e : Expect}

theorem decodeFrom_single (h : b.toNat < 0x80) (rest : List UInt8) :
    decodeFrom none (b :: rest) = Char.ofNat b.toNat :: decodeFrom none rest := by
  rw [decodeFrom, if_pos h]

theorem decodeFrom_lead (h : Expect.ofLead? b.toNat = some e) (rest : List UInt8) :
    decodeFrom none (b :: rest) = decodeFrom (some e) rest := by
  have hlong : ¬ b.toNat < 0x80 := by
    intro hb
    rw [Expect.ofLead?, if_pos (by omega)] at h
    cases h
  rw [decodeFrom, if_neg hlong, h]

/-! ### Characters of two, three and four bytes -/

variable {w x y z : Nat}

theorem toNat_ofNat {n : Nat} (h : n < 256) : (UInt8.ofNat n).toNat = n := by
  rw [UInt8.toNat_ofNat', Nat.mod_eq_of_lt h]

/-- The last byte of a character gives the lower six bits. -/
theorem decodeFrom_last {low high value : Nat} (hz : z < 64) (hlow : low ≤ z + 128)
    (hhigh : z + 128 ≤ high) (rest : List UInt8) :
    decodeFrom (some ⟨low, high, 0, value⟩) (UInt8.ofNat (z + 128) :: rest) =
      Char.ofNat (value * 64 + z) :: decodeFrom none rest := by
  have hbyte : (UInt8.ofNat (z + 128)).toNat = z + 128 := toNat_ofNat (by omega)
  rw [decodeFrom, hbyte, if_pos ⟨hlow, hhigh⟩, if_pos rfl, Nat.add_sub_cancel]

/-- So does every byte between the first and the last. -/
theorem decodeFrom_next {low high more value : Nat} (hz : z < 64) (hlow : low ≤ z + 128)
    (hhigh : z + 128 ≤ high) (rest : List UInt8) :
    decodeFrom (some ⟨low, high, more + 1, value⟩) (UInt8.ofNat (z + 128) :: rest) =
      decodeFrom (some ⟨0x80, 0xBF, more, value * 64 + z⟩) rest := by
  have hbyte : (UInt8.ofNat (z + 128)).toNat = z + 128 := toNat_ofNat (by omega)
  rw [decodeFrom, hbyte, if_pos ⟨hlow, hhigh⟩, if_neg (Nat.succ_ne_zero more), Expect.next,
    Nat.add_sub_cancel, Nat.add_sub_cancel]

theorem decodeFrom_two (hy : 2 ≤ y ∧ y < 32) (hz : z < 64) (rest : List UInt8) :
    decodeFrom none (UInt8.ofNat (y + 192) :: UInt8.ofNat (z + 128) :: rest) =
      Char.ofNat (y * 64 + z) :: decodeFrom none rest := by
  have hlead : (UInt8.ofNat (y + 192)).toNat = y + 192 := toNat_ofNat (by omega)
  rw [decodeFrom_lead (by rw [hlead, Expect.ofLead?_two hy.1 hy.2]),
    decodeFrom_last hz (by omega) (by omega)]

theorem decodeFrom_three (hx : x < 16) (hy : y < 64) (hz : z < 64) (hshort : x = 0 → 32 ≤ y)
    (hsurrogate : x = 13 → y < 32) (rest : List UInt8) :
    decodeFrom none
        (UInt8.ofNat (x + 224) :: UInt8.ofNat (y + 128) :: UInt8.ofNat (z + 128) :: rest) =
      Char.ofNat ((x * 64 + y) * 64 + z) :: decodeFrom none rest := by
  have hlead : (UInt8.ofNat (x + 224)).toNat = x + 224 := toNat_ofNat (by omega)
  rw [decodeFrom_lead (by rw [hlead, Expect.ofLead?_three hx]),
    decodeFrom_next hy (by split <;> omega) (by split <;> omega),
    decodeFrom_last hz (by omega) (by omega)]

theorem decodeFrom_four (hw : w ≤ 4) (hx : x < 64) (hy : y < 64) (hz : z < 64)
    (hshort : w = 0 → 16 ≤ x) (hlast : w = 4 → x < 16) (rest : List UInt8) :
    decodeFrom none
        (UInt8.ofNat (w + 240) :: UInt8.ofNat (x + 128) :: UInt8.ofNat (y + 128) ::
          UInt8.ofNat (z + 128) :: rest) =
      Char.ofNat (((w * 64 + x) * 64 + y) * 64 + z) :: decodeFrom none rest := by
  have hlead : (UInt8.ofNat (w + 240)).toNat = w + 240 := toNat_ofNat (by omega)
  rw [decodeFrom_lead (by rw [hlead, Expect.ofLead?_four hw]),
    decodeFrom_next hx (by split <;> omega) (by split <;> omega),
    decodeFrom_next hy (by omega) (by omega), decodeFrom_last hz (by omega) (by omega)]

/-! ### Texts -/

/-- A code point is no surrogate and not past the last one. -/
theorem toNat_isValid (c : Char) : c.toNat < 0xD800 ∨ 0xDFFF < c.toNat ∧ c.toNat < 0x110000 :=
  c.valid

/-- **The bytes of one character are read as it.**  The bits of its code point are spread over the
bytes; that it is valid keeps the second byte within the bounds the first one sets. -/
theorem decodeFrom_utf8EncodeChar (c : Char) (rest : List UInt8) :
    decodeFrom none (String.utf8EncodeChar c ++ rest) = c :: decodeFrom none rest := by
  have hvalid := toNat_isValid c
  have hread : ∀ {n : Nat}, n = c.toNat → Char.ofNat n = c := by
    rintro n rfl
    exact Char.ofNat_toNat c
  have hcode : c.val.toNat = c.toNat := rfl
  rw [String.utf8EncodeChar, hcode]
  generalize c.toNat = n at *
  split
  · have hbyte : (UInt8.ofNat n).toNat = n := toNat_ofNat (by omega)
    rw [List.singleton_append, decodeFrom_single (by omega), hread hbyte]
  · split
    · rw [List.cons_append, List.singleton_append,
        decodeFrom_two (by omega) (by omega), hread (by omega)]
    · split
      · rw [List.cons_append, List.cons_append, List.singleton_append,
          decodeFrom_three (by omega) (by omega) (by omega) (by omega) (by omega),
          hread (by omega)]
      · rw [List.cons_append, List.cons_append, List.cons_append, List.singleton_append,
          decodeFrom_four (by omega) (by omega) (by omega) (by omega) (by omega) (by omega),
          hread (by omega)]

/-- **The bytes of a text are read as that text.** -/
theorem decodeLossy_bytes (s : List Char) : decodeLossy (bytes s) = s := by
  induction s with
  | nil => rfl
  | cons c s ih =>
      rw [decodeLossy, bytes, List.flatMap_cons, decodeFrom_utf8EncodeChar]
      exact congrArg (c :: ·) ih

theorem decode?_bytes (s : List Char) : decode? (bytes s) = some s := by
  rw [decode?, decodeLossy_bytes]
  exact if_pos rfl

end CommandBot.Text.Utf8
