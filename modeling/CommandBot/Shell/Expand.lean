/-
**Expanding words.**

The pieces of a word are expanded to glyphs, from left to right.  The glyphs are then parted into the
fields that a command gets, or taken as one text.  A piece whose value nobody wants is passed without
any effect.

* `CommandBot.Shell.Expand.Manner` — how a word is expanded;
* `CommandBot.Shell.Expand.Progress` — what a word was expanded to so far;
* `CommandBot.Shell.Expand.pieces` — **the glyphs of a word**;
* `CommandBot.Shell.Expand.fields` — **the fields of a word**;
* `CommandBot.Shell.Expand.text`, `CommandBot.Shell.Expand.value`, `CommandBot.Shell.Expand.document`,
  `CommandBot.Shell.Expand.pattern` — the text of a word that is not parted.
-/

import CommandBot.Shell.Arithmetic
import CommandBot.Shell.Parameter
import CommandBot.Shell.Pathname

set_option relaxedAutoImplicit false
set_option autoImplicit false

namespace CommandBot.Shell.Expand

open Exec

/-! ### Manners -/

/-- How a word is expanded. -/
structure Manner where
  /-- It stands between double quotes. -/
  isQuoted : Bool
  /-- It becomes fields. -/
  isParted : Bool
  /-- It belongs to a parameter in braces, so that its octets may part fields too. -/
  isInner : Bool
  /-- A home may stand after a colon, and after the first sign of equality. -/
  assigns : Bool
  /-- A home may stand at its beginning. -/
  beginsHome : Bool
  /-- Nobody wants it. -/
  isIdle : Bool

namespace Manner

/-- A text. -/
def plain : Manner := ⟨false, false, false, false, false, false⟩

/-- A text that may begin with a home. -/
def text : Manner := { plain with beginsHome := true }

/-- Fields. -/
def fields : Manner := { text with isParted := true }

/-- A word that assigns. -/
def assignment : Manner := { plain with assigns := true }

/-- A text within the script. -/
def document : Manner := { plain with isQuoted := true }

/-- A word within braces. -/
def inner (m : Manner) : Manner := { m with isInner := true, beginsHome := true }

/-- A word whose text alone counts. -/
def alone (m : Manner) : Manner := { text with isIdle := m.isIdle }

/-- Nobody wants the word if a condition holds. -/
def idleIf (m : Manner) (condition : Bool) : Manner := { m with isIdle := m.isIdle || condition }

/-- The word stands between double quotes if a condition holds. -/
def quotedIf (m : Manner) (condition : Bool) : Manner :=
  { m with isQuoted := m.isQuoted || condition }

end Manner

/-! ### Progress -/

/-- What a word was expanded to so far. -/
structure Progress where
  expansion : Expansion
  /-- Where the octets begin that stand in the word itself. -/
  start : Nat
  /-- The pieces stand between quotes of the word. -/
  isQuoted : Bool
  /-- The number of pieces to pass. -/
  passes : Nat
  /-- A home may stand here. -/
  mayBeHome : Bool
  /-- A sign of equality was met. -/
  afterEquality : Bool

namespace Progress

/-- Nothing of a word was expanded, after something else. -/
def begin (m : Manner) (e : Expansion) : Progress := ⟨e, e.size, false, 0, m.beginsHome, false⟩

/-- The octets of the word itself end here.  Within braces they may part fields. -/
def close (m : Manner) (p : Progress) : Progress :=
  let isRegion := m.isInner && !m.isQuoted && !p.isQuoted && p.start < p.expansion.size
  { p with
    expansion := if isRegion then p.expansion.mark p.start false else p.expansion
    start := p.expansion.size, mayBeHome := false }

/-- One more glyph that is none of the octets of the word itself. -/
def add (m : Manner) (g : Glyph) (p : Progress) : Progress :=
  let p := p.close m
  if m.isIdle then p
  else { p with expansion := p.expansion.add g, start := p.expansion.size + 1 }

/-- What comes after octets of the word itself. -/
def resumeAt (p : Progress) (e : Expansion) : Progress := { p with expansion := e, start := e.size }

/-- One more octet of the word itself. -/
def plain (m : Manner) (c : Char) (p : Progress) : Progress :=
  let isFirstEquality := m.assigns && c == '=' && !p.afterEquality
  { p with
    expansion := if m.isIdle then p.expansion else p.expansion.add (.plain c)
    mayBeHome := isFirstEquality || (m.assigns && c == ':')
    afterEquality := p.afterEquality || isFirstEquality }

end Progress

/-! ### Homes -/

/-- The name of a user that pieces begin with after a tilde, and the number of its pieces. -/
def userName? (assigns : Bool) : Word → Option (Octets × Nat)
  | [] => some ([], 0)
  | .plain c :: rest =>
      if c = '/' ∨ (assigns ∧ c = ':') then some ([], 0)
      else (userName? assigns rest).map fun (name, n) => (c :: name, n + 1)
  | _ => none

/-- The file that lists the users. -/
def userList : String := "/etc/passwd"

/-- The home of a user: the sixth part of a line that begins with the name. -/
def homeOf? (files : FileTree) (name : Octets) : Option Octets :=
  let lines := (Octets.ofBytes ((files.read? userList).getD [])).splitOn '\n'
  let users := lines.map fun line => line.splitOn ':'
  (users.find? fun user => user.head? = some name).bind fun user => user[5]?

/-- The home that a tilde stands for before some pieces, and the number of pieces that name it. -/
def home? (m : Manner) (rest : Word) : Exec (Option (Octets × Nat)) := do
  match userName? m.assigns rest with
  | none => return none
  | some ([], _) =>
      if m.isIdle then return some ([], 0)
      return (← Parameter.named? "HOME").map fun home => (home, 0)
  | some (name, n) =>
      if m.isIdle then return some ([], n)
      return (homeOf? (← files) name).map fun home => (home, n)

/-! ### Values -/

/-- An octet of a value.  Between quotes it means only itself. -/
def glyph (isQuoted : Bool) (c : Char) : Glyph :=
  if isQuoted then
    match Region.double.meaning c with
    | .guarded => .guarded c
    | .backslash => .guarded c
    | _ => .plain c
  else if Region.isMark c then .guarded c
  else .plain c

/-- The octets of a value. -/
def glyphs (isQuoted : Bool) (s : Octets) : List Glyph := s.map (glyph isQuoted)

/-- The octet that stands between all arguments in a row, if one does.  Where fields are made of
them, each argument ends a field. -/
def between (m : Manner) (isList : Bool) : Exec (Option Char) := do
  if m.isParted && m.isQuoted && isList then return some argumentEnd
  let octets? ← Parameter.named? "IFS"
  if m.isParted && !m.isQuoted then
    return some (if octets?.isSome then argumentEnd else ' ')
  return (octets?.getD [' ']).head?

/-- All arguments in a row. -/
def arguments (m : Manner) (isList : Bool) : Exec Octets := do
  let between ← between m isList
  return between.toList.intercalate (← own).arguments

/-- An argument of the script; before the first stands the name of the shell. -/
def argument? (o : Own) (n : Nat) : Option Octets :=
  match n with
  | 0 => some shellName
  | n + 1 => o.arguments[n]?

/-- The number that stands for the first process of the shell. -/
def processNumber (m : Machine) : Nat := (m.outer.getLast?).getD m.own.number

/-- **The value of a parameter**, if it is set. -/
def value? (m : Manner) (name : Octets) : Exec (Option Octets) := do
  let o ← own
  match name with
  | ['#'] => return some (Numeral.text o.arguments.length)
  | ['?'] => return some (Numeral.text o.status)
  | ['$'] => return some (Numeral.text (processNumber (← get)))
  | ['!'] => return o.lastProcess.map fun n => Numeral.text n
  | ['-'] => return some o.switches.letters
  | ['@'] => return some (← arguments m true)
  | ['*'] => return some (← arguments m false)
  | _ =>
      match Numeral.digits? name with
      | some n => return argument? o n
      | none => Parameter.get? name

/-- The complaint about a parameter that is not set. -/
def absent {α : Type} (name reason : Octets) : Exec α := fail (name ++ ": ".toList ++ reason)

/-- A parameter must be set if that is wished. -/
def demand (name : Octets) (isThere : Bool) : Exec Unit := do
  if !isThere then
    if ← isOn .nounset then absent name "parameter not set".toList

/-- A value is expanded, from a place on.  Fields may end in it unless it stands between quotes; even
there they end between the arguments of the script. -/
def mark (m : Manner) (name : Octets) (start : Nat) (e : Expansion) : Exec Expansion := do
  if !m.isQuoted then return e.mark start false
  if name = ['@'] ∧ !(← own).arguments.isEmpty then return e.mark start true
  return e

/-- One more value of a parameter. -/
def addValue (m : Manner) (name : Octets) (value? : Option Octets) (e : Expansion) :
    Exec Expansion :=
  if m.isIdle then return e
  else mark m name e.size (e.addAll (glyphs m.isQuoted (value?.getD [])))

/-- The value of a parameter as it is. -/
def plainValue (m : Manner) (name : Octets) (e : Expansion) : Exec Expansion := do
  let value? ← value? m name
  if !m.isIdle then demand name value?.isSome
  addValue m name value? e

/-- A text that is no value of a parameter. -/
def addText (m : Manner) (s : Octets) (e : Expansion) : Expansion :=
  let e' := e.addAll (glyphs m.isQuoted s)
  if m.isQuoted then e' else e'.mark e.size false

/-! ### Scripts and expressions -/

/-- The value of an expression. -/
def computed (s : Octets) : Exec Octets := do
  let o ← own
  let value? (name : Octets) := (o.variableTable.get? (String.ofList name)).bind Variable.value?
  let isReadOnly (name : Octets) :=
    ((o.variableTable.get? (String.ofList name)).map Variable.isReadOnly).getD false
  let (result, assigned) := Arithmetic.compute ⟨value?, isReadOnly⟩ s
  for (name, n) in assigned do Parameter.set name (Numeral.text n)
  match result with
  | .ok n => return Numeral.text n
  | .error (.expression reason) =>
      fail ("arithmetic expression: ".toList ++ reason.toList ++ ": \"".toList ++ s ++ ['"'])
  | .error (.notANumber value) => refuseNumber value
  | .error (.readOnly name) => fail (name ++ ": is read only".toList)
  | .error .overflow => throw (.killed Signal.arithmetic)

/-- What expands scripts within words. -/
abbrev Capture := List Node → Exec Octets

/-! ### Pieces -/

/-- A list of all arguments between quotes. -/
def isArgumentList : Word → Bool
  | .parameter ['@'] .value _ :: .quote :: _ => true
  | _ => false

/-- Whether a word in braces stands in for a value. -/
def standsIn (purpose : Purpose) (emptyToo : Bool) (value? : Option Octets) : Bool :=
  let isThere := match value? with
    | none => false
    | some value => !(emptyToo && value.isEmpty)
  isThere == (purpose == .whenSet)

/-- The complaint about a parameter that is missing. -/
def missing (emptyToo : Bool) : Octets :=
  (if emptyToo then "parameter not set or null" else "parameter not set").toList

/-- A value without a part that fits a pattern. -/
def trimmed (m : Manner) (name : Octets) (atEnd longest : Bool) (start : Nat) (pattern : Octets)
    (e : Expansion) : Exec Expansion := do
  let glyphs := Pattern.trim atEnd longest pattern (e.glyphsFrom start)
  mark m name start ((e.cutAt start).addAll glyphs)

/-- A value is needed to go on. -/
def valueNeeded (m : Manner) (name : Octets) : Exec (Option Octets) := do
  let value? ← value? m name
  if !m.isIdle then demand name value?.isSome
  return value?

mutual

/-- What one piece adds to an expansion. -/
def piece (capture : Capture) (m : Manner) : Piece → Expansion → Exec Expansion
  | .plain c, e => return e.add (.plain c)
  | .guarded c, e => return e.add (.guarded c)
  | .quote, e => return e.add .quote
  | .output script, e => do
      if m.isIdle then return e
      return addText m (← capture script) e
  | .arithmetic expression, e => do
      if m.isIdle then return e
      let inner ← pieces capture .plain expression (.begin .plain .empty)
      return addText m (← computed inner.text) e
  | .parameter name use word, e => do
      match use with
      | .value => plainValue m name e
      | .followed => plainValue m name e
      | .unknown => do
          if !m.isIdle then fail "Bad substitution".toList
          pieces capture (m.inner.idleIf true) word (.begin m.inner e)
      | .length => do
          match ← valueNeeded m name with
          | none => addValue m name (some ['0']) e
          | some value => addValue m name (some (Numeral.text value.length)) e
      | .trim atEnd longest => do
          let value? ← valueNeeded m name
          if m.isIdle || value?.isNone then return e
          let pattern ← pieces capture .text word (.begin .text .empty)
          let whole := e.addAll (glyphs m.isQuoted (value?.getD []))
          trimmed m name atEnd longest e.size (Pattern.ofGlyphs false pattern.glyphs.toList) whole
      | .alternative purpose emptyToo => do
          let value? ← value? m name
          let wanted := standsIn purpose emptyToo value? && !m.isIdle
          match purpose with
          | .instead => do
              let e ← pieces capture (m.inner.idleIf !wanted) word (.begin m.inner e)
              if wanted then return e else addValue m name value? e
          | .whenSet => pieces capture (m.inner.idleIf !wanted) word (.begin m.inner e)
          | .complaint => do
              if !wanted then addValue m name value? e
              else do
                let inner ← pieces capture .text word (.begin .text .empty)
                absent name (if word.isEmpty then missing emptyToo else inner.text)
          | .assigned => do
              if !wanted then addValue m name value? e
              else do
                let inner ← pieces capture .text word (.begin .text .empty)
                Parameter.set name inner.text
                plainValue m name e

/-- **The glyphs of a word.** -/
def pieces (capture : Capture) (m : Manner) : Word → Progress → Exec Expansion
  | [], p => return (p.close m).expansion
  | first :: rest, p => do
      if 0 < p.passes then pieces capture m rest { p with passes := p.passes - 1 }
      else
        match first with
        | .plain c => do
            match ← if p.mayBeHome && c == '~' then home? m rest else pure none with
            | some (home, n) => do
                let p := p.close m
                let e := p.expansion.addAll (glyphs true home)
                pieces capture m rest { p.resumeAt e with passes := n }
            | none => pieces capture m rest (p.plain m c)
        | .guarded c => pieces capture m rest (p.add m (.guarded c))
        | .quote =>
            if !p.isQuoted && isArgumentList rest then do
              let p := p.close m
              let e ← plainValue (m.quotedIf true) ['@'] p.expansion
              pieces capture m rest { p.resumeAt e with passes := 2 }
            else
              let p := p.add m .quote
              pieces capture m rest { p with isQuoted := !p.isQuoted }
        | .parameter name .followed word => do
            -- the word goes on within the braces, and ends with them
            let p := p.close m
            let e ← plainValue (m.quotedIf p.isQuoted) name p.expansion
            pieces capture m word (p.resumeAt e)
        | special => do
            let p := p.close m
            let e ← piece capture (m.quotedIf p.isQuoted) special p.expansion
            pieces capture m rest (p.resumeAt e)

end

/-- What a word is expanded to. -/
def expansion (capture : Capture) (m : Manner) (word : Word) : Exec Expansion :=
  pieces capture m word (.begin m .empty)

/-! ### Words -/

/-- The text of a word that is not parted. -/
def text (capture : Capture) (word : Word) : Exec Octets :=
  return (← expansion capture .text word).text

/-- The text of a word that assigns. -/
def value (capture : Capture) (word : Word) : Exec Octets :=
  return (← expansion capture .assignment word).text

/-- The text of a text within the script. -/
def document (capture : Capture) (word : Word) : Exec Octets :=
  return (← expansion capture .document word).text

/-- The pattern of a word. -/
def pattern (capture : Capture) (word : Word) : Exec Octets :=
  return Pattern.ofGlyphs false (← expansion capture .text word).glyphs.toList

/-- The paths that fit a field, or else the text of the field. -/
def paths (files : FileTree) (glyphs : List Glyph) : List Octets :=
  match Pathname.matching files (Pattern.ofGlyphs false glyphs) with
  | [] => [Glyph.text glyphs]
  | paths => paths

/-- **The fields of a word.** -/
def fields (capture : Capture) (word : Word) : Exec (List Octets) := do
  let e ← expansion capture .fields word
  let fields := e.fields ⟨← Parameter.separators⟩ none
  if ← isOn .noglob then return fields.map Glyph.text
  return fields.flatMap (paths (← files))

/-- The fields of some words. -/
def allFields (capture : Capture) : List Word → Exec (List Octets)
  | [] => return []
  | word :: rest => do
      let first ← fields capture word
      return first ++ (← allFields capture rest)

end CommandBot.Shell.Expand
