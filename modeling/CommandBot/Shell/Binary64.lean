/-
**Numbers with a point.**

A number with a point is kept as the nearest one of 64 bits: a whole number of 53 bits times a power
of two.  Numbers that are too great are infinite; of two that are equally near, the one whose last bit
is zero is taken.

* `CommandBot.Shell.Binary64` — the numbers;
* `CommandBot.Shell.Binary64.ofRatio` — the nearest number to a quotient;
* `CommandBot.Shell.Binary64.scan` — **the number at the start of a text, and what follows it**;
* `CommandBot.Shell.Binary64.fixed`, `CommandBot.Shell.Binary64.scientific`,
  `CommandBot.Shell.Binary64.general`, `CommandBot.Shell.Binary64.hexadecimal` — the ways to print
  one.
-/

import CommandBot.Shell.Numeral

set_option relaxedAutoImplicit false
set_option autoImplicit false

namespace CommandBot.Shell

/-- A number of 64 bits, without its sign. -/
inductive Binary64 where
  /-- A whole number times a power of two. -/
  | finite (mantissa : Nat) (exponent : Int)
  | infinite
  | notANumber
deriving DecidableEq, Repr

namespace Binary64

/-! ### The nearest number -/

/-- The quotient of two numbers, rounded to the nearest one; of two equally near the even one. -/
def roundDiv (a b : Nat) : Nat :=
  let q := a / b
  let r := a % b
  if b < 2 * r || (2 * r == b && q % 2 == 1) then q + 1 else q

/-- The least whole number of 53 bits. -/
def leastMantissa : Nat := 0x10000000000000

/-- The least exponent. -/
def leastExponent : Int := -1074

/-- The greatest exponent. -/
def greatestExponent : Int := 971

/-- A power of two as a quotient. -/
def power (base : Nat) (e : Int) : Nat × Nat :=
  if 0 ≤ e then (base.pow e.toNat, 1) else (1, base.pow (-e).toNat)

/-- The greatest exponent for which the quotient of two numbers has 53 bits. -/
def exponentOf (a b : Nat) : Int :=
  let guess : Int := (Nat.log2 a : Int) - (Nat.log2 b : Int) - 52
  let (p, q) := power 2 guess
  let exact := if a * q < b * p * leastMantissa then guess - 1 else guess
  max exact leastExponent

/-- **The nearest number to a quotient**, and whether it lies out of range. -/
def ofRatio (a b : Nat) : Binary64 × Bool :=
  if a = 0 then (finite 0 0, false)
  else
    let e := exponentOf a b
    let (p, q) := power 2 e
    let m := roundDiv (a * q) (b * p)
    let (m, e) := if m = 2 * leastMantissa then (leastMantissa, e + 1) else (m, e)
    if greatestExponent < e then (infinite, true)
    else (finite m e, m < leastMantissa && m * b * p != a * q)

/-! ### Reading -/

/-- A number with a sign. -/
structure Signed where
  isNegative : Bool
  value : Binary64
  /-- The number that was written is out of range. -/
  isOutOfRange : Bool

/-- The digits of a number before and after its point, and what follows them. -/
def digits? (base : Nat) (s : Octets) : Option (Octets × Octets × Octets) :=
  let whole := Numeral.digitsIn base s
  let rest := s.drop whole.length
  match rest with
  | '.' :: after =>
      let part := Numeral.digitsIn base after
      if whole.isEmpty && part.isEmpty then none
      else some (whole, part, after.drop part.length)
  | _ => if whole.isEmpty then none else some (whole, [], rest)

/-- The exponent that a letter announces, and what follows it. -/
def exponent (letters : List Char) (s : Octets) : Int × Octets :=
  match s with
  | c :: rest =>
      if letters.contains c then
        let (isNegative, digits) := match rest with
          | '-' :: rest => (true, rest)
          | '+' :: rest => (false, rest)
          | rest => (false, rest)
        match Numeral.scanDecimal? digits with
        | some (n, rest) => (if isNegative then -(n : Int) else n, rest)
        | none => (0, s)
      else (0, s)
  | [] => (0, s)

/-- The greatest size of an exponent that makes a difference, beside the number of digits. -/
def exponentLimit : Nat := 1200

/-- A whole number times a power, which may be so great or so small that it need not be computed. -/
def scaled (base m : Nat) (e : Int) (digits : Nat) : Binary64 × Bool :=
  let limit : Int := exponentLimit + 4 * digits
  let (p, q) := power base (max (-limit) (min limit e))
  ofRatio (m * p) q

/-- A number in decimal, and what follows it. -/
def scanDecimal? (s : Octets) : Option (Binary64 × Bool × Octets) :=
  match digits? 10 s with
  | none => none
  | some (whole, part, rest) =>
      let (e, rest) := exponent ['e', 'E'] rest
      let all := whole ++ part
      let (value, out) := scaled 10 (Numeral.value 10 all) (e - part.length) all.length
      some (value, out, rest)

/-- A number in hexadecimal, after its mark, and what follows it. -/
def scanHexadecimal? (s : Octets) : Option (Binary64 × Bool × Octets) :=
  match digits? 16 s with
  | none => none
  | some (whole, part, rest) =>
      let (e, rest) := exponent ['p', 'P'] rest
      let all := whole ++ part
      let (value, out) := scaled 2 (Numeral.value 16 all) (e - 4 * part.length) (4 * all.length)
      some (value, out, rest)

/-- What follows a word at the start of a text, in letters of either case. -/
def after? (word : String) (s : Octets) : Option Octets :=
  if (s.take word.length).map Char.toLower = word.toList then some (s.drop word.length) else none

/-- What follows the note in parentheses that a text may begin with. -/
def dropNote : Octets → Octets
  | '(' :: s =>
      let rest := s.dropWhile isNameChar
      if rest.head? = some ')' then rest.drop 1 else '(' :: s
  | s => s

/-- A number without a sign, and what follows it. -/
def scanUnsigned? (s : Octets) : Option (Binary64 × Bool × Octets) :=
  match after? "infinity" s, after? "inf" s, after? "nan" s with
  | some rest, _, _ => some (infinite, false, rest)
  | _, some rest, _ => some (infinite, false, rest)
  | _, _, some rest => some (notANumber, false, dropNote rest)
  | _, _, _ =>
      match (after? "0x" s).bind scanHexadecimal? with
      | some result => some result
      | none => scanDecimal? s

/-- **The number at the start of a text, and what follows it.** -/
def scan? (s : Octets) : Option (Signed × Octets) :=
  let signed (isNegative : Bool) (rest : Octets) :=
    (scanUnsigned? rest).map fun (value, out, rest) => (Signed.mk isNegative value out, rest)
  match s.dropWhile Numeral.isBlank with
  | '-' :: rest => signed true rest
  | '+' :: rest => signed false rest
  | rest => signed false rest

/-! ### Printing -/

/-- Digits with zeros before them. -/
def padded (width : Nat) (digits : Octets) : Octets :=
  List.replicate (width - digits.length) '0' ++ digits

/-- The decimal digits of a number. -/
def decimal (n : Nat) : Octets := Nat.toDigits 10 n

/-- Digits with a point before the last of them, which may be wished even if none follow. -/
def withPoint (places : Nat) (always : Bool) (digits : Octets) : Octets :=
  let digits := padded (places + 1) digits
  let whole := digits.take (digits.length - places)
  if places = 0 then (if always then whole ++ ['.'] else whole)
  else whole ++ '.' :: digits.drop (digits.length - places)

/-- **A number with so many places.** -/
def fixed (m : Nat) (e : Int) (places : Nat) (always : Bool) : Octets :=
  let (p, q) := power 2 e
  withPoint places always (decimal (roundDiv (m * p * Nat.pow 10 places) q))

/-- The decimal exponent of a quotient. -/
def decimalExponent (a b : Nat) : Int :=
  if a = 0 then 0
  else
    let guess : Int := ((decimal a).length : Int) - ((decimal b).length : Int)
    let (p, q) := power 10 guess
    if a * q < b * p then guess - 1 else guess

/-- The digits of a number with so many places after the first digit, and its exponent. -/
def significant (m : Nat) (e : Int) (places : Nat) : Nat × Int :=
  let (p, q) := power 2 e
  let x := decimalExponent (m * p) q
  let (u, v) := power 10 (places - x)
  let n := roundDiv (m * p * u) (q * v)
  if n = Nat.pow 10 (places + 1) then (Nat.pow 10 places, x + 1) else (n, x)

/-- An exponent with its letter, in so many digits at least. -/
def exponentText (letter : Char) (width : Nat) (x : Int) : Octets :=
  letter :: (if x < 0 then '-' else '+') :: padded width (decimal x.natAbs)

/-- **A number with one digit before the point, and its exponent.** -/
def scientific (m : Nat) (e : Int) (places : Nat) (always : Bool) : Octets :=
  let (n, x) := significant m e places
  withPoint places always (decimal n) ++ exponentText 'e' 2 x

/-- A text without the zeros at its end, and without a point there. -/
def dropZeros (s : Octets) : Octets :=
  if s.contains '.' then
    let s := s.reverse.dropWhile fun c => c == '0'
    (if s.head? = some '.' then s.drop 1 else s).reverse
  else s

/-- **A number with so many digits**, with an exponent if it is very great or small. -/
def general (m : Nat) (e : Int) (precision : Nat) (always : Bool) : Octets :=
  let digits := max precision 1
  let (n, x) := significant m e (digits - 1)
  let trim (s : Octets) := if always then s else dropZeros s
  if -4 ≤ x && x < digits then trim (fixed m e (digits - 1 - x).toNat always)
  else trim (withPoint (digits - 1) always (decimal n)) ++ exponentText 'e' 2 x

/-- **A number in hexadecimal**, with so many places or with all that it needs. -/
def hexadecimal (m : Nat) (e : Int) (places? : Option Nat) (always : Bool) : Octets :=
  let x : Int := if m = 0 then 0 else e + 52
  let all := Nat.toDigits 16 (m % leastMantissa + leastMantissa)
  let needed := ((all.drop 1).reverse.dropWhile fun c => c == '0').length
  let places := places?.getD needed
  let n := if places < 13 then roundDiv m (Nat.pow 16 (13 - places))
    else m * Nat.pow 16 (places - 13)
  '0' :: 'x' :: withPoint places always (Nat.toDigits 16 n) ++ exponentText 'p' 1 x

end Binary64

end CommandBot.Shell
