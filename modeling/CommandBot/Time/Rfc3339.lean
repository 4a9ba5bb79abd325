/-
**Moments as text.**

The store keeps a moment as an RFC 3339 text in UTC.  Writing gives the fraction in groups of
three digits, as few as show it; reading accepts any offset and any number of fraction digits, of
which the first nine count.

* `CommandBot.Timestamp.text` — the text of a moment;
* `CommandBot.Timestamp.minuteText` — its date and minute, for people;
* `CommandBot.Timestamp.read?` — the moment of a text.
-/

import CommandBot.Text.Cut
import CommandBot.Text.Decimal
import CommandBot.Time.Timestamp

set_option relaxedAutoImplicit false
set_option autoImplicit false

namespace CommandBot

open Text (afterStart?)
open Text.Decimal (digit? padded)

/-! ### Writing -/

/-- A year on four places; one that four digits cannot show carries its sign. -/
def Date.yearText (year : Int) : List Char :=
  if 0 ≤ year ∧ year ≤ 9999 then padded 4 year.toNat
  else if year < 0 then '-' :: padded 4 year.natAbs
  else '+' :: padded 4 year.natAbs

/-- A date with dashes. -/
def Date.text (d : Date) : List Char :=
  Date.yearText d.year ++ '-' :: padded 2 d.month ++ '-' :: padded 2 d.day

namespace Timestamp

/-- The fraction of a second, on the fewest of 0, 3, 6 and 9 places that show it. -/
def fractionText (n : Nat) : List Char :=
  if n = 0 then []
  else if n % 1000000 = 0 then '.' :: padded 3 (n / 1000000)
  else if n % 1000 = 0 then '.' :: padded 6 (n / 1000)
  else '.' :: padded 9 n

/-- The characters of `text`. -/
def textChars (t : Timestamp) : List Char :=
  t.date.text ++ 'T' :: padded 2 t.hour ++ ':' :: padded 2 t.minute ++
    ':' :: padded 2 t.secondOfMinute ++ fractionText t.fraction ++ ['+', '0', '0', ':', '0', '0']

/-- **The text of a moment.** -/
def text (t : Timestamp) : String := String.ofList t.textChars

/-- The date and the minute of a moment. -/
def minuteText (t : Timestamp) : String :=
  String.ofList (t.date.text ++ ' ' :: padded 2 t.hour ++ ':' :: padded 2 t.minute) ++ " UTC"

/-! ### Reading -/

/-- A number of exactly so many digits that continue `value`, and what follows it. -/
def readPlaces? : Nat → Nat → List Char → Option (Nat × List Char)
  | 0, value, s => some (value, s)
  | _ + 1, _, [] => none
  | places + 1, value, c :: rest =>
      match digit? c with
      | none => none
      | some d => readPlaces? places (value * 10 + d) rest

/-- The nanoseconds that the digits of a fraction show, and what follows them.  `places` digits
may still count, and those so far show `value`. -/
def readFraction : Nat → Nat → List Char → Nat × List Char
  | places, value, [] => (value * Nat.pow 10 places, [])
  | places, value, c :: rest =>
      match digit? c, places with
      | none, _ => (value * Nat.pow 10 places, c :: rest)
      | some _, 0 => readFraction 0 value rest
      | some d, places + 1 => readFraction places (value * 10 + d) rest

/-- A fraction with its point, if there is one, and what follows it. -/
def readOptionalFraction? : List Char → Option (Nat × List Char)
  | '.' :: c :: rest =>
      if (digit? c).isSome then some (readFraction 9 0 (c :: rest)) else none
  | '.' :: [] => none
  | s => some (0, s)

/-- The minutes by which a local time is ahead of UTC; the text must end with them. -/
def readOffset? : List Char → Option Int
  | ['Z'] => some 0
  | ['z'] => some 0
  | sign :: rest => do
      let direction ← if sign = '+' then some 1 else if sign = '-' ∨ sign = '\u2212' then some (-1)
        else none
      let (hours, rest) ← readPlaces? 2 0 rest
      let rest ← afterStart? [':'] rest
      let (minutes, rest) ← readPlaces? 2 0 rest
      if rest = [] ∧ hours ≤ 23 ∧ minutes ≤ 59 then
        some (direction * ((hours * 60 + minutes : Nat) : Int))
      else none
  | [] => none

/-- The mark between a date and a time. -/
def readSeparator? : List Char → Option (List Char)
  | 'T' :: rest => some rest
  | 't' :: rest => some rest
  | ' ' :: rest => some rest
  | _ => none

/-- The moment of a date and a time of day that are ahead of UTC by `offset` minutes.  A second
of 60 is the leap second after the 59th. -/
def ofLocal? (date : Date) (hour minute second nano : Nat) (offset : Int) : Option Timestamp :=
  if date.Exists ∧ hour ≤ 23 ∧ minute ≤ 59 ∧ second ≤ 60 then
    let whole := date.dayNumber * 86400 + ((hour * 3600 + minute * 60 : Nat) : Int) - offset * 60
    if second = 60 then ofUnix? (whole + 59) (nano + 1000000000)
    else ofUnix? (whole + second) nano
  else none

/-- The moment that the characters show. -/
def readChars? (s : List Char) : Option Timestamp := do
  let (year, s) ← readPlaces? 4 0 s
  let s ← afterStart? ['-'] s
  let (month, s) ← readPlaces? 2 0 s
  let s ← afterStart? ['-'] s
  let (day, s) ← readPlaces? 2 0 s
  let s ← readSeparator? s
  let (hour, s) ← readPlaces? 2 0 s
  let s ← afterStart? [':'] s
  let (minute, s) ← readPlaces? 2 0 s
  let s ← afterStart? [':'] s
  let (second, s) ← readPlaces? 2 0 s
  let (nano, s) ← readOptionalFraction? s
  let offset ← readOffset? s
  ofLocal? ⟨year, month, day⟩ hour minute second nano offset

/-- **The moment that a text shows**, or nothing if it is no RFC 3339 text of an existing
moment. -/
def read? (s : String) : Option Timestamp := readChars? s.toList

end Timestamp

end CommandBot
