/-
**Numerals.**

A number is written in decimal, in octal after a zero, in hexadecimal after `0x`, or in binary after
`0b`.  A number that does not fit 64 bits becomes the nearest that does.

* `CommandBot.Shell.Numeral.scan` — the number at the start of a text, and what follows it;
* `CommandBot.Shell.Numeral.whole?` — the number that a whole text is, with blanks around it;
* `CommandBot.Shell.Numeral.small?` — the same in decimal, if it is a count;
* `CommandBot.Shell.Numeral.wrap` — a number cut to 64 bits.
-/

import CommandBot.Shell.Syntax
import CommandBot.Text.Decimal
import CommandBot.Text.Hex

set_option relaxedAutoImplicit false
set_option autoImplicit false

namespace CommandBot.Shell.Numeral

/-! ### Ranges -/

/-- The greatest number. -/
def greatest : Int := 0x7fffffffffffffff

/-- The least number. -/
def least : Int := -0x8000000000000000

/-- The nearest number of 64 bits. -/
def clamp (n : Int) : Int := max least (min greatest n)

/-- A number fits 64 bits. -/
def fits (n : Int) : Bool := least ≤ n && n ≤ greatest

/-- A number cut to 64 bits. -/
def wrap (n : Int) : Int := n.bmod UInt64.size

/-! ### Digits -/

/-- A blank around a number. -/
def isBlank (c : Char) : Bool := " \t\n\r\x0b\x0c".toList.contains c

/-- The value of a digit in a base. -/
def digitIn? (base : Nat) (c : Char) : Option Nat :=
  match Text.hexDigit? c with
  | some d => if d < base then some d else none
  | none => none

/-- The digits at the start of a text. -/
def digitsIn (base : Nat) (s : Octets) : Octets := s.takeWhile fun c => (digitIn? base c).isSome

/-- The number that digits stand for. -/
def value (base : Nat) (digits : Octets) : Nat :=
  digits.foldl (fun n c => n * base + (digitIn? base c).getD 0) 0

/-! ### Reading -/

/-- The base that a letter after a zero says. -/
def markedBase? : Char → Option Nat
  | 'x' => some 16
  | 'X' => some 16
  | 'b' => some 2
  | 'B' => some 2
  | _ => none

/-- The base of a numeral, and its digits with what follows them. -/
def baseOf : Octets → Nat × Octets
  | '0' :: mark :: c :: rest =>
      match markedBase? mark with
      | some base =>
          if (digitIn? base c).isSome then (base, c :: rest) else (8, '0' :: mark :: c :: rest)
      | none => (8, '0' :: mark :: c :: rest)
  | '0' :: rest => (8, '0' :: rest)
  | s => (10, s)

/-- The number without a sign at the start of a text, and what follows it. -/
def scanUnsigned? (s : Octets) : Option (Nat × Octets) :=
  let (base, s) := baseOf s
  let digits := digitsIn base s
  if digits.isEmpty then none else some (value base digits, s.drop digits.length)

/-- The number in decimal without a sign at the start of a text, and what follows it. -/
def scanDecimal? (s : Octets) : Option (Nat × Octets) :=
  let digits := digitsIn 10 s
  if digits.isEmpty then none else some (value 10 digits, s.drop digits.length)

/-- The number at the start of a text with blanks and a sign before it, and what follows it. -/
def signed? (unsigned : Octets → Option (Nat × Octets)) (s : Octets) : Option (Int × Octets) :=
  match s.dropWhile isBlank with
  | '-' :: rest => (unsigned rest).map fun (n, rest) => (-(n : Int), rest)
  | '+' :: rest => (unsigned rest).map fun (n, rest) => ((n : Int), rest)
  | rest => (unsigned rest).map fun (n, rest) => ((n : Int), rest)

/-- The number at the start of a text in any base, and what follows it. -/
def scan? (s : Octets) : Option (Int × Octets) := signed? scanUnsigned? s

/-- **The number at the start of a text, and what follows it.**  Without a number nothing is read. -/
def scan (s : Octets) : Int × Octets := (scan? s).getD (0, s)

/-- A number that was read and must be followed by blanks only, and fit. -/
def ended? (read : Option (Int × Octets)) : Option Int :=
  match read with
  | some (n, rest) => if fits n && rest.all isBlank then some n else none
  | none => none

/-- **The number that a whole text is**, in any base; a blank text is zero. -/
def whole? (s : Octets) : Option Int := if s.all isBlank then some 0 else ended? (scan? s)

/-- The number that a whole text in decimal is. -/
def decimal? (s : Octets) : Option Int := ended? (signed? scanDecimal? s)

/-- **The count that a whole text in decimal is.** -/
def small? (s : Octets) : Option Nat :=
  match decimal? s with
  | some n => if 0 ≤ n ∧ n < 0x80000000 then some n.toNat else none
  | none => none

/-- The number that a text of digits is. -/
def digits? (s : Octets) : Option Nat := Text.Decimal.readDigits? s

/-- A number in decimal. -/
def text (n : Int) : Octets := (toString n).toList

end CommandBot.Shell.Numeral
