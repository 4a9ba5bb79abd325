/-
**Decimal numerals.**

Counters, identifiers and database numbers are written in decimal.  Writing never pads; reading
accepts leading zeros and a leading `+`, and refuses everything that is not a numeral or does
not fit.

* `CommandBot.Text.Decimal.digit?` — the value of a decimal digit;
* `CommandBot.Text.Decimal.readDigits?` — a non-empty run of digits as a number;
* `CommandBot.Text.Decimal.readUnsigned?` — a number below a limit;
* `CommandBot.Text.Decimal.readSigned?` — a number of 64 bits with a sign;
* `CommandBot.Text.Decimal.padded` — a number on at least so many places.
-/

set_option relaxedAutoImplicit false
set_option autoImplicit false

namespace CommandBot.Text.Decimal

/-! ### Reading -/

/-- The value of a decimal digit. -/
def digit? (c : Char) : Option Nat :=
  if '0' ≤ c ∧ c ≤ '9' then some (c.toNat - 48) else none

/-- The number that the digits `s` continue, when those before them read `value`. -/
def readFrom? (value : Nat) : List Char → Option Nat
  | [] => some value
  | c :: rest =>
      match digit? c with
      | none => none
      | some d => readFrom? (value * 10 + d) rest

/-- The number that a non-empty run of digits stands for. -/
def readDigits? : List Char → Option Nat
  | [] => none
  | c :: rest => readFrom? 0 (c :: rest)

/-- A number below `limit`, with an optional `+`. -/
def readUnsigned? (limit : Nat) (s : List Char) : Option Nat :=
  let digits := match s with
    | '+' :: rest => rest
    | _ => s
  match readDigits? digits with
  | some n => if n < limit then some n else none
  | none => none

/-- A number from `-2 ^ 63` to `2 ^ 63 - 1`, with an optional sign. -/
def readSigned? (s : List Char) : Option Int :=
  match s with
  | '-' :: rest =>
      match readDigits? rest with
      | some n => if n ≤ 0x8000000000000000 then some (-(n : Int)) else none
      | none => none
  | _ => (readUnsigned? 0x8000000000000000 s).map Int.ofNat

/-! ### Writing -/

/-- The digits of a number, with zeros in front up to `places` places. -/
def padded (places n : Nat) : List Char :=
  let digits := Nat.toDigits 10 n
  List.replicate (places - digits.length) '0' ++ digits

/-- Different numbers have different digits. -/
theorem toDigits_injective {m n : Nat} (h : Nat.toDigits 10 m = Nat.toDigits 10 n) : m = n := by
  have := congrArg (Nat.ofDigitChars 10 · 0) h
  simpa [Nat.ofDigitChars_ten_toDigits] using this

end CommandBot.Text.Decimal
