/-
**Percent escapes and forms.**

A byte that may not stand in an address for itself is written as `%` and two hexadecimal digits.
A form, `application/x-www-form-urlencoded`, is a list of pairs written with such escapes, with
`+` for a space, `=` between a name and its value, and `&` between pairs.

* `CommandBot.Text.Percent.decode` — the bytes that a text with escapes stands for;
* `CommandBot.Text.Percent.encode` — bytes with all but some of them escaped;
* `CommandBot.Text.Form.encode` — a list of pairs as a form;
* `CommandBot.Text.Form.decode` — the pairs of a form.
-/

import CommandBot.Text.Cut
import CommandBot.Text.Hex
import CommandBot.Text.Utf8

set_option relaxedAutoImplicit false
set_option autoImplicit false

namespace CommandBot.Text.Percent

/-! ### Escaped bytes -/

/-- The escape of one byte. -/
def escape (b : UInt8) : List Char := ['%', upperHexDigit (b.toNat / 16), upperHexDigit (b.toNat % 16)]

/-- Bytes as text: those that pass `keep` stand for themselves, all others are escaped. -/
def encode (keep : UInt8 → Bool) (bytes : List UInt8) : List Char :=
  bytes.flatMap fun b => if keep b then [Char.ofNat b.toNat] else escape b

/-- **The bytes that a text stands for.**  A `%` that two hexadecimal digits do not follow stands
for itself, and a character that is no escape stands for its own bytes. -/
def decode : List Char → List UInt8
  | [] => []
  | '%' :: a :: b :: rest =>
      match hexDigit? a, hexDigit? b with
      | some h, some l => UInt8.ofNat (h * 16 + l) :: decode rest
      | _, _ => 37 :: decode (a :: b :: rest)
  | c :: rest => String.utf8EncodeChar c ++ decode rest

end CommandBot.Text.Percent

namespace CommandBot.Text.Form

/-! ### Forms -/

/-- The bytes that a form shows as they are: letters, digits and `*-._`. -/
def isPlain (b : UInt8) : Bool :=
  (48 ≤ b && b ≤ 57) || (65 ≤ b && b ≤ 90) || (97 ≤ b && b ≤ 122) ||
    b == 42 || b == 45 || b == 46 || b == 95

/-- One name or value of a form. -/
def encodeText (s : String) : List Char :=
  (Utf8.bytes s.toList).flatMap fun b =>
    if b = 32 then ['+'] else if isPlain b then [Char.ofNat b.toNat] else Percent.escape b

/-- One pair of a form. -/
def encodePair (pair : String × String) : List Char :=
  encodeText pair.1 ++ '=' :: encodeText pair.2

/-- **A list of pairs as a form.** -/
def encode (pairs : List (String × String)) : List Char :=
  ['&'].intercalate (pairs.map encodePair)

/-- The text that one name or value of a form stands for. -/
def decodeText (s : List Char) : String :=
  String.ofList (Utf8.decodeLossy (Percent.decode (s.map fun c => if c = '+' then ' ' else c)))

/-- One pair of a form; without a `=` the value is empty. -/
def decodePair (s : List Char) : String × String :=
  match splitAtFirst? '=' s with
  | some (name, value) => (decodeText name, decodeText value)
  | none => (decodeText s, "")

/-- **The pairs of a form**, in order; empty parts between `&` are no pairs. -/
def decode (s : List Char) : List (String × String) :=
  ((s.splitOn '&').filter fun part => !part.isEmpty).map decodePair

end CommandBot.Text.Form
