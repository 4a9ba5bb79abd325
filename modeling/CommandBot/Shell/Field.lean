/-
**Fields.**

What a word expands to is a text of glyphs: octets that may be guarded from any meaning, and the
quotes that stood between them.  The expansion also tells in which regions of the text fields may end,
because only what was expanded outside of quotes is parted.

* `CommandBot.Shell.Glyph` — an octet with what is known of it;
* `CommandBot.Shell.Expansion` — glyphs with the regions in which fields may end;
* `CommandBot.Shell.Separators` — the octets that part fields;
* `CommandBot.Shell.Expansion.fields` — **the fields of an expansion.**
-/

import CommandBot.Shell.Syntax

set_option relaxedAutoImplicit false
set_option autoImplicit false

namespace CommandBot.Shell

/-! ### Glyphs -/

/-- An octet with what is known of it. -/
inductive Glyph where
  /-- It may mean something. -/
  | plain (c : Char)
  /-- It means only itself. -/
  | guarded (c : Char)
  /-- A quote, of which a trace remains even if nothing is between it and the next. -/
  | quote
deriving DecidableEq, Repr

namespace Glyph

/-- The octet of a glyph. -/
def char? : Glyph → Option Char
  | plain c => some c
  | guarded c => some c
  | quote => none

/-- The text of some glyphs. -/
def text (glyphs : List Glyph) : Octets := glyphs.filterMap char?

end Glyph

/-! ### Expansions -/

/-- A part of an expansion in which fields may end. -/
structure Span where
  start : Nat
  stop : Nat
  /-- Fields end only where one argument of the script ends. -/
  betweenArguments : Bool
deriving DecidableEq, Repr

/-- The octet that stands between two arguments of the script. -/
def argumentEnd : Char := '\x00'

/-- Glyphs with the regions in which fields may end. -/
structure Expansion where
  glyphs : Array Glyph
  spans : Array Span

namespace Expansion

/-- An expansion with nothing in it. -/
def empty : Expansion := ⟨#[], #[]⟩

/-- The number of glyphs. -/
def size (e : Expansion) : Nat := e.glyphs.size

/-- One more glyph. -/
def add (e : Expansion) (g : Glyph) : Expansion := { e with glyphs := e.glyphs.push g }

/-- Some more glyphs. -/
def addAll (e : Expansion) (gs : List Glyph) : Expansion := gs.foldl add e

/-- Fields may end from a place on. -/
def mark (e : Expansion) (start : Nat) (betweenArguments : Bool) : Expansion :=
  { e with spans := e.spans.push ⟨start, e.size, betweenArguments⟩ }

/-- The glyphs from a place on. -/
def glyphsFrom (e : Expansion) (start : Nat) : List Glyph := (e.glyphs.toList).drop start

/-- What was expanded from a place on is taken back. -/
def cutAt (e : Expansion) (start : Nat) : Expansion :=
  ⟨e.glyphs.take start, (e.spans.filter fun s => s.start < start).map fun s =>
    { s with stop := min s.stop start }⟩

/-- The text of an expansion. -/
def text (e : Expansion) : Octets := Glyph.text e.glyphs.toList

end Expansion

/-! ### Separators -/

/-- The octets that part fields. -/
structure Separators where
  octets : Octets

namespace Separators

/-- The octets that part fields where none are given. -/
def standard : Octets := [' ', '\t', '\n']

/-- An octet that may end a field in a region. -/
def ends (s : Separators) (betweenArguments : Bool) (c : Char) : Bool :=
  c == argumentEnd || (!betweenArguments && s.octets.contains c)

/-- An octet of which any number counts as one. -/
def isBlank (c : Char) : Bool := c == argumentEnd || standard.contains c

end Separators

/-! ### Fields -/

/-- How far the glyphs were parted. -/
structure Parting where
  /-- The fields so far, in reverse. -/
  fields : List (List Glyph)
  /-- The field that is begun, in reverse. -/
  current : List Glyph
  /-- The number of fields that may still begin; without it there may be any number. -/
  left : Option Nat
  /-- Where the separators at the end of the last field begin, if they are to be removed. -/
  removal : Option Nat
  /-- A blank ended the last field, and further separators belong to it. -/
  afterBlank : Bool
  /-- The last region was one between arguments, so that blanks are like other separators. -/
  afterArguments : Bool

namespace Parting

/-- Nothing was parted, into so many fields at most. -/
def start (limit : Option Nat) : Parting := ⟨[], [], limit, none, false, false⟩

/-- One more glyph of the field that is begun. -/
def add (p : Parting) (g : Glyph) : Parting := { p with current := g :: p.current }

/-- A glyph of the last field that may begin; separators at its end may be removed. -/
def addLast (p : Parting) (g : Glyph) (ends blank : Bool) : Parting :=
  let p' := p.add g
  if ends && blank then { p' with removal := some (p.removal.getD p.current.length) }
  else if ends && p.afterBlank then { p' with afterBlank := false }
  else { p' with removal := none, afterBlank := false }

/-- A separator after which no further field may begin. -/
def endLast (p : Parting) (g : Glyph) : Parting :=
  { p.add g with left := some 0, removal := some p.current.length }

/-- A separator that ends the field that is begun. -/
def finish (p : Parting) (left : Option Nat) : Parting :=
  { p with fields := p.current.reverse :: p.fields, current := [], left }

/-- A separator.  A blank where a field would begin is passed. -/
def separate (p : Parting) (g : Glyph) (blank betweenArguments : Bool) : Parting :=
  let p := if p.afterArguments || betweenArguments then p else { p with afterBlank := blank }
  if p.current.isEmpty && p.afterBlank then { p with afterBlank := false }
  else
    match p.left with
    | none => p.finish none
    | some n => if n ≤ 1 then p.endLast g else p.finish (some (n - 1))

/-- One more glyph of a region.  After a blank that ended a field, further blanks and one other
separator are passed. -/
def next (s : Separators) (betweenArguments : Bool) (p : Parting) (g : Glyph) : Parting :=
  let ends := (g.char?.map (s.ends betweenArguments)).getD false
  let blank := ends && (g.char?.map Separators.isBlank).getD false
  if p.left = some 0 then p.addLast g ends blank
  else if p.afterBlank then
    if blank then p
    else
      let p := { p with afterBlank := false }
      if ends then p else p.add g
  else if ends then p.separate g blank betweenArguments
  else p.add g

/-- A region. -/
def region (s : Separators) (betweenArguments : Bool) (glyphs : List Glyph) (p : Parting) :
    Parting :=
  let p := glyphs.foldl (next s betweenArguments) { p with afterBlank := false }
  { p with afterArguments := betweenArguments }

/-- The regions of some glyphs, from a place on, and what is around them. -/
def regions (s : Separators) : List Span → Nat → List Glyph → Parting → Parting
  | [], _, glyphs, p => glyphs.foldl add p
  | span :: rest, place, glyphs, p =>
      let before := glyphs.take (span.start - place)
      let glyphs := glyphs.drop (span.start - place)
      let length := span.stop - span.start
      let p := (before.foldl add p).region s span.betweenArguments (glyphs.take length)
      regions s rest (max place span.start + length) (glyphs.drop length) p

/-- All fields, after the last glyph. -/
def result (p : Parting) : List (List Glyph) :=
  if p.afterArguments then (p.current.reverse :: p.fields).reverse
  else
    let last := match p.removal with
      | none => p.current.reverse
      | some n => p.current.reverse.take n
    (if last.isEmpty then p.fields else last :: p.fields).reverse

end Parting

/-- **The fields of an expansion**, of which there may be so many at most. -/
def Expansion.fields (s : Separators) (limit : Option Nat) (e : Expansion) : List (List Glyph) :=
  (Parting.regions s e.spans.toList 0 e.glyphs.toList (.start limit)).result

end CommandBot.Shell
