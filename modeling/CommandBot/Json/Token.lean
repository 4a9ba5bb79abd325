/-
**The tokens of a JSON text.**

A JSON text is first cut into tokens: brackets, marks, the three words, numbers and strings.  A
number is kept as it is written, since nothing reads its value.  A string is kept as a list of
items, each a character or an escaped unit of UTF-16, because a unit that is one half of a pair is
allowed in a string that is passed over and in no other.

* `CommandBot.Json.Item` — one item of a string;
* `CommandBot.Json.decode?` — the text that the items of a string stand for;
* `CommandBot.Json.Token` — a token;
* `CommandBot.Json.scan?` — the token at the front of a text;
* `CommandBot.Json.tokens?` — all tokens of a text.
-/

import CommandBot.Text.Hex

set_option relaxedAutoImplicit false
set_option autoImplicit false

namespace CommandBot.Json

open Text (hexDigit?)

/-! ### Strings -/

/-- One item of a string. -/
inductive Item where
  /-- A character, written as it is or with a short escape. -/
  | char (c : Char)
  /-- A unit of UTF-16, written with four hexadecimal digits. -/
  | unit (u : Nat)
deriving DecidableEq, Repr

/-- The first unit of a pair. -/
def isHigh (u : Nat) : Bool := 0xD800 ≤ u && u ≤ 0xDBFF

/-- The second unit of a pair. -/
def isLow (u : Nat) : Bool := 0xDC00 ≤ u && u ≤ 0xDFFF

/-- The character that a pair of units stands for. -/
def ofPair (high low : Nat) : Char :=
  Char.ofNat (0x10000 + (high - 0xD800) * 0x400 + (low - 0xDC00))

/-- **The text that the items of a string stand for**, if every unit has its other half. -/
def decode? : List Item → Option (List Char)
  | [] => some []
  | .char c :: rest => (decode? rest).map (c :: ·)
  | .unit u :: .unit v :: rest =>
      -- a first half counts only together with the second half right after it
      if isHigh u then
        if isLow v then (decode? rest).map (ofPair u v :: ·) else none
      else if isLow u then none
      else (decode? (.unit v :: rest)).map (Char.ofNat u :: ·)
  | .unit u :: rest =>
      if isHigh u || isLow u then none else (decode? rest).map (Char.ofNat u :: ·)

/-- The unit that four hexadecimal digits write. -/
def hexUnit? (a b c d : Char) : Option Nat := do
  let a ← hexDigit? a
  let b ← hexDigit? b
  let c ← hexDigit? c
  let d ← hexDigit? d
  return ((a * 16 + b) * 16 + c) * 16 + d

/-- The character that a short escape stands for. -/
def shortEscape? (c : Char) : Option Char :=
  if c = '"' then some '"'
  else if c = '\\' then some '\\'
  else if c = '/' then some '/'
  else if c = 'b' then some '\x08'
  else if c = 'f' then some '\x0c'
  else if c = 'n' then some '\n'
  else if c = 'r' then some '\r'
  else if c = 't' then some '\t'
  else none

/-- The items up to the closing quote, and what follows it. -/
def scanString? : List Char → Option (List Item × List Char)
  | [] => none
  | '"' :: rest => some ([], rest)
  | '\\' :: 'u' :: a :: b :: c :: d :: rest =>
      match hexUnit? a b c d with
      | none => none
      | some u => (scanString? rest).map fun r => (.unit u :: r.1, r.2)
  | '\\' :: e :: rest =>
      match shortEscape? e with
      | none => none
      | some c => (scanString? rest).map fun r => (.char c :: r.1, r.2)
  | c :: rest =>
      if c.toNat < 0x20 ∨ c = '\\' then none
      else (scanString? rest).map fun r => (.char c :: r.1, r.2)

/-! ### Numbers -/

/-- The digits at the front of a text, and what follows them. -/
def spanDigits : List Char → List Char × List Char
  | [] => ([], [])
  | c :: rest =>
      if c.isDigit then (c :: (spanDigits rest).1, (spanDigits rest).2) else ([], c :: rest)

/-- One or more digits. -/
def scanDigits? (s : List Char) : Option (List Char × List Char) :=
  match spanDigits s with
  | ([], _) => none
  | found => some found

/-- The whole part of a number: a zero alone, or digits that begin with another. -/
def scanWhole? : List Char → Option (List Char × List Char)
  | '0' :: rest => some (['0'], rest)
  | s => scanDigits? s

/-- The part of a number after its point, if it has one. -/
def scanFraction? : List Char → Option (List Char × List Char)
  | '.' :: rest => (scanDigits? rest).map fun r => ('.' :: r.1, r.2)
  | s => some ([], s)

/-- The digits of an exponent with their sign, if they have one. -/
def scanSignedDigits? : List Char → Option (List Char × List Char)
  | '+' :: rest => (scanDigits? rest).map fun r => ('+' :: r.1, r.2)
  | '-' :: rest => (scanDigits? rest).map fun r => ('-' :: r.1, r.2)
  | s => scanDigits? s

/-- The exponent of a number, if it has one. -/
def scanExponent? : List Char → Option (List Char × List Char)
  | 'e' :: rest => (scanSignedDigits? rest).map fun r => ('e' :: r.1, r.2)
  | 'E' :: rest => (scanSignedDigits? rest).map fun r => ('E' :: r.1, r.2)
  | s => some ([], s)

/-- A number without its sign. -/
def scanMagnitude? (s : List Char) : Option (List Char × List Char) := do
  let (whole, s) ← scanWhole? s
  let (fraction, s) ← scanFraction? s
  let (exponent, s) ← scanExponent? s
  return (whole ++ fraction ++ exponent, s)

/-- A number. -/
def scanNumber? : List Char → Option (List Char × List Char)
  | '-' :: rest => (scanMagnitude? rest).map fun r => ('-' :: r.1, r.2)
  | s => scanMagnitude? s

/-! ### Tokens -/

/-- A token. -/
inductive Token where
  | openArray
  | closeArray
  | openObject
  | closeObject
  | comma
  | colon
  | null
  | bool (value : Bool)
  | number (digits : List Char)
  | string (items : List Item)
deriving DecidableEq, Repr

/-- The characters that may stand between tokens. -/
def isGap (c : Char) : Bool := c = ' ' || c = '\t' || c = '\n' || c = '\r'

/-- The token at the front of a text, and what follows it. -/
def scan? : List Char → Option (Token × List Char)
  | '[' :: rest => some (.openArray, rest)
  | ']' :: rest => some (.closeArray, rest)
  | '\x7b' :: rest => some (.openObject, rest)
  | '\x7d' :: rest => some (.closeObject, rest)
  | ',' :: rest => some (.comma, rest)
  | ':' :: rest => some (.colon, rest)
  | '"' :: rest => (scanString? rest).map fun r => (.string r.1, r.2)
  | 'n' :: 'u' :: 'l' :: 'l' :: rest => some (.null, rest)
  | 't' :: 'r' :: 'u' :: 'e' :: rest => some (.bool true, rest)
  | 'f' :: 'a' :: 'l' :: 's' :: 'e' :: rest => some (.bool false, rest)
  | s => (scanNumber? s).map fun r => (.number r.1, r.2)

/-! ### Nothing is scanned twice -/

theorem length_scanString? {s : List Char} {items : List Item} {rest : List Char}
    (h : scanString? s = some (items, rest)) : rest.length < s.length := by
  fun_induction scanString? s generalizing items rest with
  | case1 => cases h
  | case2 => cases h; simp
  | case3 => cases h
  | case4 a b c d tail u _ ih =>
      obtain ⟨r, hr, he⟩ := Option.map_eq_some_iff.1 h
      cases he
      have := ih hr
      simp only [List.length_cons]; omega
  | case5 => cases h
  | case6 e tail _ c _ ih =>
      obtain ⟨r, hr, he⟩ := Option.map_eq_some_iff.1 h
      cases he
      have := ih hr
      simp only [List.length_cons]; omega
  | case7 => cases h
  | case8 c tail _ _ _ _ ih =>
      obtain ⟨r, hr, he⟩ := Option.map_eq_some_iff.1 h
      cases he
      have := ih hr
      simp only [List.length_cons]; omega

theorem spanDigits_append (s : List Char) : (spanDigits s).1 ++ (spanDigits s).2 = s := by
  induction s with
  | nil => rfl
  | cons c rest ih =>
      by_cases h : c.isDigit = true
      · simpa [spanDigits, h] using ih
      · simp [spanDigits, h]

theorem scanDigits?_append {s digits rest : List Char}
    (h : scanDigits? s = some (digits, rest)) : digits ++ rest = s ∧ digits ≠ [] := by
  have hs := spanDigits_append s
  unfold scanDigits? at h
  split at h
  · cases h
  · rename_i hne
    have he : spanDigits s = (digits, rest) := Option.some.inj h
    rw [he] at hs
    exact ⟨hs, fun hd => hne rest (by rw [he, hd])⟩

theorem scanWhole?_append {s digits rest : List Char}
    (h : scanWhole? s = some (digits, rest)) : digits ++ rest = s ∧ digits ≠ [] := by
  unfold scanWhole? at h
  split at h
  · cases h; simp
  · exact scanDigits?_append h

theorem scanFraction?_append {s digits rest : List Char}
    (h : scanFraction? s = some (digits, rest)) : digits ++ rest = s := by
  unfold scanFraction? at h
  split at h
  · obtain ⟨r, hr, he⟩ := Option.map_eq_some_iff.1 h
    cases he
    simp [(scanDigits?_append hr).1]
  · cases h; rfl

theorem scanSignedDigits?_append {s digits rest : List Char}
    (h : scanSignedDigits? s = some (digits, rest)) : digits ++ rest = s := by
  unfold scanSignedDigits? at h
  split at h
  · obtain ⟨r, hr, he⟩ := Option.map_eq_some_iff.1 h
    cases he
    simp [(scanDigits?_append hr).1]
  · obtain ⟨r, hr, he⟩ := Option.map_eq_some_iff.1 h
    cases he
    simp [(scanDigits?_append hr).1]
  · exact (scanDigits?_append h).1

theorem scanExponent?_append {s digits rest : List Char}
    (h : scanExponent? s = some (digits, rest)) : digits ++ rest = s := by
  unfold scanExponent? at h
  split at h
  · obtain ⟨r, hr, he⟩ := Option.map_eq_some_iff.1 h
    cases he
    simp [scanSignedDigits?_append hr]
  · obtain ⟨r, hr, he⟩ := Option.map_eq_some_iff.1 h
    cases he
    simp [scanSignedDigits?_append hr]
  · cases h; rfl

theorem scanMagnitude?_append {s digits rest : List Char}
    (h : scanMagnitude? s = some (digits, rest)) : digits ++ rest = s ∧ digits ≠ [] := by
  simp only [scanMagnitude?, Option.bind_eq_bind, Option.bind_eq_some_iff, Prod.exists,
    Option.pure_def, Option.some.injEq, Prod.mk.injEq] at h
  obtain ⟨whole, s₁, hw, fraction, s₂, hf, exponent, s₃, he, rfl, rfl⟩ := h
  have hw := scanWhole?_append hw
  refine ⟨?_, by simp [hw.2]⟩
  rw [← hw.1, ← scanFraction?_append hf, ← scanExponent?_append he]
  simp

/-- A number is a non-empty part at the front of the text. -/
theorem scanNumber?_append {s digits rest : List Char}
    (h : scanNumber? s = some (digits, rest)) : digits ++ rest = s ∧ digits ≠ [] := by
  unfold scanNumber? at h
  split at h
  · obtain ⟨r, hr, he⟩ := Option.map_eq_some_iff.1 h
    cases he
    simp [(scanMagnitude?_append hr).1]
  · exact scanMagnitude?_append h

/-- A token takes at least one character. -/
theorem length_scan? {s : List Char} {token : Token} {rest : List Char}
    (h : scan? s = some (token, rest)) : rest.length < s.length := by
  unfold scan? at h
  split at h
  case h_7 =>
    obtain ⟨r, hr, he⟩ := Option.map_eq_some_iff.1 h
    cases he
    have := length_scanString? hr
    simp only [List.length_cons]; omega
  case h_11 =>
    obtain ⟨r, hr, he⟩ := Option.map_eq_some_iff.1 h
    cases he
    obtain ⟨hs, hne⟩ := scanNumber?_append hr
    have := List.length_pos_iff.2 hne
    rw [← hs, List.length_append]; omega
  all_goals
    cases h
    simp only [List.length_cons]; omega

/-! ### All tokens -/

/-- **All tokens of a text**, or nothing if some part of it is no token. -/
def tokens? (s : List Char) : Option (List Token) :=
  match s with
  | [] => some []
  | c :: rest =>
      if isGap c then tokens? rest
      else
        match h : scan? (c :: rest) with
        | none => none
        | some (token, rest') =>
            have : rest'.length < (c :: rest).length := length_scan? h
            (tokens? rest').map (token :: ·)
termination_by s.length
decreasing_by
  · exact Nat.lt_succ_self rest.length
  · assumption

end CommandBot.Json
