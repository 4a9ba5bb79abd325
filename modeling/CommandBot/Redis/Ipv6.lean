/-
**Addresses of eight pieces.**

An address has eight pieces of sixteen bits, written in hexadecimal with colons between them.  Two
colons stand once, for one or more pieces of zero; the last two pieces may be written as four bytes
in decimal with dots between them.  An address is shown with its longest run of zeros, the first
of them, left out, unless that is a single piece; one that wraps an address of four bytes shows
these in decimal.

* `CommandBot.Redis.Ipv6.read?` — the pieces of an address;
* `CommandBot.Redis.Ipv6.text` — how they are shown.
-/

import CommandBot.Text.Decimal
import CommandBot.Text.Hex

set_option relaxedAutoImplicit false
set_option autoImplicit false

namespace CommandBot.Redis.Ipv6

/-! ### Reading -/

/-- The number that hexadecimal digits continue, when those before them read `value`. -/
def readHexFrom? (value : Nat) : List Char → Option Nat
  | [] => some value
  | c :: rest =>
      match Text.hexDigit? c with
      | none => none
      | some d => readHexFrom? (value * 16 + d) rest

/-- A piece of one to four hexadecimal digits. -/
def readPiece? (s : List Char) : Option Nat :=
  if s.isEmpty || 4 < s.length then none else readHexFrom? 0 s

/-- A byte in decimal without leading zeros. -/
def readByte? (s : List Char) : Option Nat :=
  if s.head? = some '0' && s.length != 1 then none
  else
    match Text.Decimal.readDigits? s with
    | some n => if n < 256 then some n else none
    | none => none

/-- The two pieces that four bytes in decimal make. -/
def readBytes? (s : List Char) : Option (List Nat) :=
  match (s.splitOn '.').mapM readByte? with
  | some [a, b, c, d] => some [a * 256 + b, c * 256 + d]
  | _ => none

/-- The last group: one piece, or four bytes where these may stand. -/
def readLast? (bytesAllowed : Bool) (s : List Char) : Option (List Nat) :=
  if bytesAllowed && s.contains '.' then readBytes? s else (readPiece? s).map fun piece => [piece]

/-- The pieces of groups, of which the last may be four bytes where these may stand. -/
def readGroups? (bytesAllowed : Bool) : List (List Char) → Option (List Nat)
  | [] => some []
  | [last] => readLast? bytesAllowed last
  | group :: rest =>
      match readPiece? group, readGroups? bytesAllowed rest with
      | some piece, some pieces => some (piece :: pieces)
      | _, _ => none

/-- The groups between the colons; an empty text has none. -/
def groups (s : List Char) : List (List Char) := if s.isEmpty then [] else s.splitOn ':'

/-- The parts before and after the first two colons in a row. -/
def splitAtGap? : List Char → Option (List Char × List Char)
  | ':' :: ':' :: rest => some ([], rest)
  | c :: rest => (splitAtGap? rest).map fun parts => (c :: parts.1, parts.2)
  | [] => none

/-- **The pieces of an address.** -/
def read? (s : List Char) : Option (List Nat) :=
  match splitAtGap? s with
  | none =>
      match readGroups? true (groups s) with
      | some pieces => if pieces.length = 8 then some pieces else none
      | none => none
  | some (front, back) =>
      match readGroups? false (groups front), readGroups? true (groups back) with
      | some before, some after =>
          if before.length + after.length ≤ 7 then
            some (before ++ List.replicate (8 - before.length - after.length) 0 ++ after)
          else none
      | _, _ => none

/-! ### Writing -/

/-- The number of zeros at the start. -/
def leadingZeros (pieces : List Nat) : Nat := (pieces.takeWhile fun piece => piece == 0).length

/-- The length of the longest run of zeros. -/
def longestGap : List Nat → Nat
  | [] => 0
  | piece :: rest => max (leadingZeros (piece :: rest)) (longestGap rest)

/-- The pieces before and after the first run of `n` zeros. -/
def splitAtZeros (n : Nat) : List Nat → List Nat × List Nat
  | [] => ([], [])
  | piece :: rest =>
      if leadingZeros (piece :: rest) = n then ([], (piece :: rest).drop n)
      else (piece :: (splitAtZeros n rest).1, (splitAtZeros n rest).2)

/-- Pieces with colons between them. -/
def join (pieces : List Nat) : List Char := [':'].intercalate (pieces.map (Nat.toDigits 16))

/-- Two pieces as four bytes in decimal. -/
def bytesText (high low : Nat) : List Char :=
  ['.'].intercalate ([high / 256, high % 256, low / 256, low % 256].map (Nat.toDigits 10))

/-- Pieces with their longest run of zeros left out, unless that is a single piece. -/
def shortened (pieces : List Nat) : List Char :=
  let gap := longestGap pieces
  if gap ≤ 1 then join pieces
  else
    let parts := splitAtZeros gap pieces
    join parts.1 ++ [':', ':'] ++ join parts.2

/-- **How the pieces of an address are shown.** -/
def text : List Nat → List Char
  | [0, 0, 0, 0, 0, 65535, high, low] => "::ffff:".toList ++ bytesText high low
  | pieces => shortened pieces

end CommandBot.Redis.Ipv6
