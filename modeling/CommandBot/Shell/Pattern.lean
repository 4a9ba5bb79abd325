/-
**Patterns.**

In a pattern a star stands for any text, a question mark for any octet and brackets for one of some
octets.  A backslash takes the meaning of the sign after it.

* `CommandBot.Shell.Pattern.ofGlyphs` — the pattern that glyphs make;
* `CommandBot.Shell.Pattern.Element`, `CommandBot.Shell.Pattern.elements` — what a pattern is made
  of;
* `CommandBot.Shell.Pattern.fits` — **whether a text fits a pattern**;
* `CommandBot.Shell.Pattern.trim` — glyphs without a beginning or an end that fits.
-/

import CommandBot.Shell.Field
import CommandBot.Text.Hex

set_option relaxedAutoImplicit false
set_option autoImplicit false

namespace CommandBot.Shell.Pattern

/-! ### Glyphs -/

/-- The pattern that glyphs make: a backslash stands before the octets that are guarded, unless one
stands there already. -/
def ofGlyphs : Bool → List Glyph → Octets
  | _, [] => []
  | _, .quote :: rest => ofGlyphs false rest
  | afterBackslash, .plain '\\' :: rest => '\\' :: ofGlyphs (!afterBackslash) rest
  | _, .plain c :: rest => c :: ofGlyphs false rest
  | afterBackslash, .guarded c :: rest =>
      (if afterBackslash then [c] else ['\\', c]) ++ ofGlyphs false rest

/-! ### Elements -/

/-- One of the members between brackets. -/
inductive Member where
  | range (first last : Char)
  | kind (name : String)
deriving DecidableEq, Repr

/-- An element of a pattern. -/
inductive Element where
  | literal (c : Char)
  /-- Any octet. -/
  | any
  /-- Any text. -/
  | many
  /-- An octet that is one of some members, or none of them. -/
  | oneOf (inverted : Bool) (members : List Member)
deriving DecidableEq, Repr

/-- The names of kinds of octets. -/
def kinds : List String :=
  ["alnum", "cntrl", "lower", "space", "alpha", "digit", "print", "upper", "blank", "graph",
    "punct", "xdigit"]

/-- The kind that a text names after an opening bracket, and what follows it. -/
def kind? (s : Octets) : List String → Option (String × Octets)
  | [] => none
  | name :: rest =>
      let written := ':' :: name.toList ++ [':', ']']
      if written.isPrefixOf s then some (name, s.drop written.length) else kind? s rest

/-- The end of a range, and what follows it. -/
def rangeEnd? : Octets → Option (Char × Octets)
  | '-' :: '\\' :: c :: rest => some (c, rest)
  | '-' :: ']' :: _ => none
  | '-' :: c :: rest => some (c, rest)
  | _ => none

/-- A member that begins with an octet, and what follows it. -/
def member (c : Char) (rest : Octets) : Member × Octets :=
  match rangeEnd? rest with
  | some (d, rest) => (.range c d, rest)
  | none => (.range c c, rest)

/-- The members up to the closing bracket, and what follows it; in so many steps at most.  The first
member may be a closing bracket itself. -/
def members? : Nat → Bool → Octets → Option (List Member × Octets)
  | 0, _, _ => none
  | _, _, [] => none
  | fuel + 1, isFirst, c :: rest =>
      if c = ']' && !isFirst then some ([], rest)
      else
        let (first, rest) := match c, kind? rest kinds, rest with
          | '[', some (name, rest), _ => (Member.kind name, rest)
          | '\\', _, c :: rest => member c rest
          | c, _, rest => member c rest
        (members? fuel false rest).map fun (members, rest) => (first :: members, rest)

/-- The element that a bracket begins, and what follows it. -/
def bracket? (s : Octets) : Option (Element × Octets) :=
  let inverted := s.head? == some '!'
  let s := if inverted then s.drop 1 else s
  (members? (s.length + 1) true s).map fun (members, rest) => (.oneOf inverted members, rest)

/-- The elements of a pattern, in so many steps at most. -/
def elementsIn : Nat → Octets → List Element
  | 0, _ => []
  | _, [] => []
  | fuel + 1, c :: rest =>
      match c, rest with
      | '*', rest => .many :: elementsIn fuel rest
      | '?', rest => .any :: elementsIn fuel rest
      | '\\', d :: rest => .literal d :: elementsIn fuel rest
      | '[', rest =>
          match bracket? rest with
          | some (element, rest) => element :: elementsIn fuel rest
          | none => .literal '[' :: elementsIn fuel rest
      | c, rest => .literal c :: elementsIn fuel rest

/-- The elements of a pattern. -/
def elements (s : Octets) : List Element := elementsIn s.length s

/-! ### Fitting -/

/-- Whether an octet is of a kind. -/
def isOfKind (name : String) (c : Char) : Bool :=
  let isPrinted := ' ' ≤ c && c ≤ '~'
  match name with
  | "alnum" => c.isAlphanum
  | "cntrl" => c < ' ' || c == '\x7f'
  | "lower" => c.isLower
  | "space" => " \t\n\r\x0b\x0c".toList.contains c
  | "alpha" => c.isAlpha
  | "digit" => c.isDigit
  | "print" => isPrinted
  | "upper" => c.isUpper
  | "blank" => c == ' ' || c == '\t'
  | "graph" => isPrinted && c != ' '
  | "punct" => isPrinted && c != ' ' && !c.isAlphanum
  | "xdigit" => (Text.hexDigit? c).isSome
  | _ => false

/-- The number by which octets are ordered in a range: those from 128 on come first. -/
def rank (c : Char) : Nat := (c.toNat + 128) % 256

/-- Whether an octet is a member. -/
def Member.admits : Member → Char → Bool
  | range first last, c => rank first ≤ rank c && rank c ≤ rank last || c == first && first == last
  | kind name, c => isOfKind name c

/-- Whether an octet fits an element. -/
def Element.admits : Element → Char → Bool
  | literal d, c => c == d
  | any, _ => true
  | many, _ => true
  | oneOf inverted members, c => (members.any fun m => m.admits c) != inverted

/-- The ends of a text, from the whole of it to nothing. -/
def endings : Octets → List Octets
  | [] => [[]]
  | c :: rest => (c :: rest) :: endings rest

/-- Whether a text fits some elements. -/
def fitsElements : List Element → Octets → Bool
  | [], s => s.isEmpty
  | .many :: rest, s => (endings s).any (fitsElements rest)
  | _ :: _, [] => false
  | element :: rest, c :: s => element.admits c && fitsElements rest s

/-- Two stars mean what one means. -/
def joinStars : List Element → List Element
  | .many :: .many :: rest => joinStars (.many :: rest)
  | element :: rest => element :: joinStars rest
  | [] => []

/-- **Whether a text fits a pattern.** -/
def fits (pattern text : Octets) : Bool := fitsElements (joinStars (elements pattern)) text

/-! ### Trimming -/

/-- A text up to the end of its first argument. -/
def firstArgument (s : Octets) : Octets := s.takeWhile fun c => c != argumentEnd

/-- The numbers up to a number, in order or in reverse. -/
def numbers (inReverse : Bool) (n : Nat) : List Nat :=
  if inReverse then (List.range (n + 1)).reverse else List.range (n + 1)

/-- The length of the beginning that is cut off: the shortest or the longest that fits. -/
def beginning? (longest : Bool) (elements : List Element) (text : Octets) : Option Nat :=
  let last := if longest then text.length else (firstArgument text).length
  (numbers longest last).find? fun n => fitsElements elements (firstArgument (text.take n))

/-- The place of the end that is cut off: the shortest or the longest that fits. -/
def ending? (longest : Bool) (elements : List Element) (text : Octets) : Option Nat :=
  let last := if longest then (firstArgument text).length else text.length
  (numbers (!longest) last).find? fun n => fitsElements elements (firstArgument (text.drop n))

/-- **Glyphs without their shortest or longest beginning or end whose text fits a pattern.**  Where
several arguments stand in a row, only one of them is looked at. -/
def trim (atEnd longest : Bool) (pattern : Octets) (glyphs : List Glyph) : List Glyph :=
  let elements := joinStars (elements pattern)
  let text := Glyph.text glyphs
  let place? := if atEnd then ending? longest elements text else beginning? longest elements text
  match place? with
  | none => glyphs
  | some n => if atEnd then glyphs.take n else glyphs.drop n

end CommandBot.Shell.Pattern
