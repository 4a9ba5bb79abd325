/-
**Texts with escapes.**

Text can be written with escapes in many ways: a character that may stand for itself need not be
escaped, and the digits of an escape have two cases.  However it is written, what is written stands
for the same bytes, and no mark that divides addresses occurs in it.

Main definitions:

* `CommandBot.Text.Percent.isSafe` — the characters that may stand for themselves;
* `CommandBot.Text.Percent.Escapes` — **the ways to write bytes with escapes**;
* `CommandBot.Text.Percent.IsUndivided` — a text without marks that divide anything.

Main results:

* `CommandBot.Text.Percent.decode_of_escapes` — **what is written stands for the bytes**;
* `CommandBot.Text.Percent.isUndivided_of_escapes` — no mark that divides anything occurs in it;
* `CommandBot.Text.Percent.escapes_encode` — one way to write bytes;
* `CommandBot.Text.Percent.encode_bytes` — a text that needs no escapes is written as it is.
-/

import CommandBot.Text.Percent

set_option relaxedAutoImplicit false
set_option autoImplicit false

namespace CommandBot.Text.Percent

/-! ### Single bytes -/

section Bytes

variable {b : UInt8} {c : Char}

theorem toNat_ofNat_toNat (b : UInt8) : (Char.ofNat b.toNat).toNat = b.toNat := by
  have hbyte : b.toNat < 256 := b.toNat_lt
  have hvalid : b.toNat.isValidChar := .inl (by omega)
  rw [Char.ofNat, dif_pos hvalid]
  rfl

/-- A character of ASCII has one byte. -/
theorem utf8EncodeChar_of_lt (h : c.toNat < 128) :
    String.utf8EncodeChar c = [UInt8.ofNat c.toNat] := by
  have hcode : c.val.toNat = c.toNat := rfl
  rw [String.utf8EncodeChar, hcode, if_pos (by omega)]

theorem utf8EncodeChar_ofNat (h : b.toNat < 128) :
    String.utf8EncodeChar (Char.ofNat b.toNat) = [b] := by
  rw [utf8EncodeChar_of_lt (by rwa [toNat_ofNat_toNat]), toNat_ofNat_toNat, UInt8.ofNat_toNat]

theorem decode_cons_of_ne (h : c ≠ '%') (s : List Char) :
    decode (c :: s) = String.utf8EncodeChar c ++ decode s := by
  rw [decode.eq_def]
  split
  · next heq => cases heq
  · next heq =>
      cases heq
      exact absurd rfl h
  · next heq =>
      cases heq
      rfl

theorem decode_of_digits {high low : Char} (hhigh : hexDigit? high = some (b.toNat / 16))
    (hlow : hexDigit? low = some (b.toNat % 16)) (s : List Char) :
    decode ('%' :: high :: low :: s) = b :: decode s := by
  have hdigits : UInt8.ofNat (b.toNat / 16 * 16 + b.toNat % 16) = b := by
    rw [Nat.div_add_mod' b.toNat 16, UInt8.ofNat_toNat]
  rw [decode, hhigh, hlow]
  simp only [hdigits]

theorem hexDigit?_high (b : UInt8) :
    hexDigit? (upperHexDigit (b.toNat / 16)) = some (b.toNat / 16) := by
  have hbyte : b.toNat < 256 := b.toNat_lt
  exact hexDigit?_upperHexDigit (by omega)

theorem hexDigit?_low (b : UInt8) :
    hexDigit? (upperHexDigit (b.toNat % 16)) = some (b.toNat % 16) :=
  hexDigit?_upperHexDigit (Nat.mod_lt _ (by decide))

theorem decode_escape (b : UInt8) (s : List Char) : decode (escape b ++ s) = b :: decode s :=
  decode_of_digits (hexDigit?_high b) (hexDigit?_low b) s

end Bytes

/-! ### Ways to write bytes -/

/-- The characters that may stand for themselves: letters, digits and marks that divide nothing. -/
def isSafe (c : Char) : Bool := c.isAlphanum || "-._~!$&'()*+,;=".toList.contains c

/-- **The ways to write bytes with escapes**: what may stand for itself does or is escaped, and all
else is escaped, with digits of either case. -/
inductive Escapes : List UInt8 → List Char → Prop where
  | nil : Escapes [] []
  | plain {bytes : List UInt8} {c : Char} {s : List Char} (h : isSafe c = true)
      (rest : Escapes bytes s) : Escapes (String.utf8EncodeChar c ++ bytes) (c :: s)
  | escape {b : UInt8} {bytes : List UInt8} {high low : Char} {s : List Char}
      (hhigh : hexDigit? high = some (b.toNat / 16)) (hlow : hexDigit? low = some (b.toNat % 16))
      (rest : Escapes bytes s) : Escapes (b :: bytes) ('%' :: high :: low :: s)

/-- A text without marks that divide anything. -/
def IsUndivided (s : List Char) : Prop := ∀ c ∈ s, isSafe c = true ∨ c = '%'

section Escapes

variable {bytes : List UInt8} {s : List Char} {c mark : Char}

/-- **What is written stands for the bytes.** -/
theorem decode_of_escapes (h : Escapes bytes s) : decode s = bytes := by
  induction h with
  | nil => rfl
  | @plain bytes c s h rest ih =>
      have hpercent : c ≠ '%' := by
        rintro rfl
        cases h
      rw [decode_cons_of_ne hpercent, ih]
  | escape hhigh hlow rest ih => rw [decode_of_digits hhigh hlow, ih]

theorem isAlphanum_iff :
    c.isAlphanum = true ↔ 48 ≤ c.toNat ∧ c.toNat ≤ 57 ∨ 65 ≤ c.toNat ∧ c.toNat ≤ 90 ∨
      97 ≤ c.toNat ∧ c.toNat ≤ 122 := by
  have hupper : c.isUpper = true ↔ 65 ≤ c.toNat ∧ c.toNat ≤ 90 := decide_eq_true_iff
  have hlower : c.isLower = true ↔ 97 ≤ c.toNat ∧ c.toNat ≤ 122 :=
    (Bool.and_eq_true _ _).to_iff.trans (and_congr decide_eq_true_iff decide_eq_true_iff)
  have hdigit : c.isDigit = true ↔ 48 ≤ c.toNat ∧ c.toNat ≤ 57 :=
    (Bool.and_eq_true _ _).to_iff.trans (and_congr decide_eq_true_iff decide_eq_true_iff)
  have hparts : c.isAlphanum = ((c.isUpper || c.isLower) || c.isDigit) := rfl
  rw [hparts, Bool.or_eq_true, Bool.or_eq_true, hupper, hlower, hdigit]
  omega

theorem bounds_of_isSafe (h : isSafe c = true) : 32 < c.toNat ∧ c.toNat < 127 := by
  rw [isSafe, Bool.or_eq_true, isAlphanum_iff, List.contains_iff_mem] at h
  rcases h with h | h
  · omega
  · have hall : ("-._~!$&'()*+,;=".toList.all fun c => 32 < c.toNat ∧ c.toNat < 127) = true := by
      decide
    simpa using List.all_eq_true.1 hall c h

theorem isSafe_of_isDigit (h : c.isDigit = true) : isSafe c = true := by
  rw [isSafe, Char.isAlphanum, h, Bool.or_true, Bool.true_or]

theorem IsUndivided.bounds (h : IsUndivided s) : ∀ c ∈ s, 32 < c.toNat ∧ c.toNat < 127 := by
  intro c hc
  rcases h c hc with hsafe | rfl
  · exact bounds_of_isSafe hsafe
  · decide

/-- **Marks do not occur where nothing is divided.** -/
theorem IsUndivided.not_mem (h : IsUndivided s) (hmark : ¬ (isSafe mark = true ∨ mark = '%')) :
    mark ∉ s := fun hmem => hmark (h mark hmem)

/-- The digits of an escape may stand for themselves as well. -/
theorem isSafe_of_hexDigit? {n : Nat} (h : hexDigit? c = some n) : isSafe c = true := by
  have hrange : ∀ {low high : Char}, low ≤ c ∧ c ≤ high →
      low.toNat ≤ c.toNat ∧ c.toNat ≤ high.toNat := fun h => h
  have halphanum : c.isAlphanum = true := by
    rw [isAlphanum_iff]
    unfold hexDigit? at h
    split at h
    · next hdigit => exact .inl (hrange hdigit)
    · split at h
      · next hsmall =>
          obtain ⟨hlow, hhigh⟩ := hrange hsmall
          exact .inr (.inr ⟨hlow, Nat.le_trans hhigh (by decide)⟩)
      · split at h
        · next hlarge =>
            obtain ⟨hlow, hhigh⟩ := hrange hlarge
            exact .inr (.inl ⟨hlow, Nat.le_trans hhigh (by decide)⟩)
        · cases h
  rw [isSafe, halphanum]
  rfl

theorem isUndivided_of_escapes (h : Escapes bytes s) : IsUndivided s := by
  induction h with
  | nil => exact nofun
  | plain h rest ih => exact List.forall_mem_cons.2 ⟨.inl h, ih⟩
  | escape hhigh hlow rest ih =>
      exact List.forall_mem_cons.2 ⟨.inr rfl, List.forall_mem_cons.2
        ⟨.inl (isSafe_of_hexDigit? hhigh), List.forall_mem_cons.2
          ⟨.inl (isSafe_of_hexDigit? hlow), ih⟩⟩⟩

theorem ne_nil_of_escapes (h : Escapes bytes s) (hbytes : bytes ≠ []) : s ≠ [] := by
  rintro rfl
  cases h
  exact hbytes rfl

/-- **One way to write bytes**: those that pass a test stand for themselves, if they may. -/
theorem escapes_encode {keep : UInt8 → Bool}
    (hkeep : ∀ b, keep b = true → b.toNat < 128 ∧ isSafe (Char.ofNat b.toNat) = true)
    (bytes : List UInt8) : Escapes bytes (encode keep bytes) := by
  induction bytes with
  | nil => exact .nil
  | cons b bytes ih =>
      rw [encode, List.flatMap_cons]
      split
      · next hb =>
          obtain ⟨hsmall, hsafe⟩ := hkeep b hb
          have hplain := Escapes.plain hsafe ih
          rwa [utf8EncodeChar_ofNat hsmall] at hplain
      · exact .escape (hexDigit?_high b) (hexDigit?_low b) ih

/-- **A text that needs no escapes is written as it is.** -/
theorem encode_bytes {keep : UInt8 → Bool}
    (h : ∀ c ∈ s, c.toNat < 128 ∧ keep (UInt8.ofNat c.toNat) = true) :
    encode keep (Utf8.bytes s) = s := by
  induction s with
  | nil => rfl
  | cons c s ih =>
      obtain ⟨⟨hsmall, hkeep⟩, hrest⟩ := List.forall_mem_cons.1 h
      have hbyte : (UInt8.ofNat c.toNat).toNat = c.toNat := by
        rw [UInt8.toNat_ofNat', Nat.mod_eq_of_lt (by omega)]
      have hbytes : Utf8.bytes (c :: s) = UInt8.ofNat c.toNat :: Utf8.bytes s := by
        rw [Utf8.bytes, List.flatMap_cons, utf8EncodeChar_of_lt hsmall]
        rfl
      rw [hbytes, encode, List.flatMap_cons, if_pos hkeep, hbyte, Char.ofNat_toNat]
      exact congrArg (c :: ·) (ih hrest)

end Escapes

end CommandBot.Text.Percent
