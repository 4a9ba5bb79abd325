/-
**Reading words.**

A word is read octet by octet.  What an octet means depends on the layer that it stands in: outside of
quotes, between single or double quotes, or in an arithmetic expression.  Braces open layers within
layers.  Scripts within words are read by a reader that is given.

* `CommandBot.Shell.Region`, `CommandBot.Shell.Meaning` — where an octet stands, and what it means
  there;
* `CommandBot.Shell.Layer` — a layer with what is open in it;
* `CommandBot.Shell.Draft` — a word that is being read;
* `CommandBot.Shell.Word.read` — **a word, or a redirection that begins where a word would**;
* `CommandBot.Shell.Word.readDocument` — a text within the script.
-/

import CommandBot.Shell.Source

set_option relaxedAutoImplicit false
set_option autoImplicit false

namespace CommandBot.Shell

/-! ### Meanings -/

/-- Where an octet stands. -/
inductive Region where
  /-- Outside of quotes. -/
  | bare
  /-- Between single quotes. -/
  | single
  /-- Between double quotes. -/
  | double
  /-- In an arithmetic expression. -/
  | arithmetic
deriving DecidableEq, Repr

/-- What an octet means. -/
inductive Meaning where
  /-- Itself. -/
  | itself
  /-- Itself, where it could mean something later. -/
  | guarded
  | lineEnd
  | backslash
  | singleQuote
  | doubleQuote
  | endQuote
  | dollar
  | endBrace
  | openParen
  | closeParen
  | backquote
  /-- The end of a word. -/
  | separator
deriving DecidableEq, Repr

namespace Region

/-- The octets that mean something in a pattern or after a tilde. -/
def isPatternSign (c : Char) : Bool := "!*?[=~:/-]".toList.contains c

/-- The octets with which a shell marks pieces for itself. -/
def isMark (c : Char) : Bool := '\x81' ≤ c && c ≤ '\x88'

/-- What an octet means in a region. -/
def meaning (region : Region) (c : Char) : Meaning :=
  if isMark c then .guarded
  else if c = '\n' then .lineEnd
  else
    match region with
    | bare =>
        match c with
        | '\\' => .backslash
        | '\'' => .singleQuote
        | '"' => .doubleQuote
        | '\x60' => .backquote
        | '$' => .dollar
        | '}' => .endBrace
        | _ => if "<>();&| \t".toList.contains c then .separator else .itself
    | single =>
        if c = '\'' then .endQuote
        else if c = '\\' || isPatternSign c then .guarded
        else .itself
    | double =>
        match c with
        | '\\' => .backslash
        | '"' => .endQuote
        | '\x60' => .backquote
        | '$' => .dollar
        | '}' => .endBrace
        | _ => if isPatternSign c then .guarded else .itself
    | arithmetic =>
        match c with
        | '\\' => .backslash
        | '\x60' => .backquote
        | '$' => .dollar
        | '}' => .endBrace
        | '(' => .openParen
        | ')' => .closeParen
        | _ => .itself

end Region

/-! ### Layers -/

/-- A layer with what is open in it. -/
structure Layer where
  region : Region
  /-- A brace opened the layer. -/
  isBraced : Bool
  /-- Double quotes are open within braces of the layer. -/
  hasInnerQuote : Bool
  /-- A backslash protects few octets only. -/
  isDouble : Bool
  /-- The number of open braces. -/
  braces : Nat
  /-- The number of braces that were opened between double quotes. -/
  quotedBraces : Nat
  /-- The number of open parentheses. -/
  parens : Nat

/-- A layer in which nothing is open. -/
def Layer.ofRegion (region : Region) : Layer := ⟨region, false, false, false, 0, 0, 0⟩

/-- What waits for its end. -/
inductive Opening where
  | parameter (name : Octets) (use : Use)
  | arithmetic

/-- The piece that an opening makes of what came after it. -/
def Opening.close (opening : Opening) (word : Word) : Piece :=
  match opening with
  | parameter name use => .parameter name use word
  | arithmetic => .arithmetic word

/-- A word that is being read. -/
structure Draft where
  layer : Layer
  /-- The layers around it, the innermost first. -/
  outer : List Layer
  /-- The pieces so far, in reverse. -/
  pieces : List Piece
  /-- The openings around them, with the pieces before each, in reverse. -/
  opened : List (Opening × List Piece)
  /-- Whether the word has quotes in it. -/
  isQuoted : Bool

namespace Draft

/-- A word of which nothing was read. -/
def start (layer : Layer) : Draft := ⟨layer, [], [], [], false⟩

/-- One more piece. -/
def add (d : Draft) (piece : Piece) : Draft := { d with pieces := piece :: d.pieces }

/-- One more octet. -/
def plain (d : Draft) (c : Char) : Draft := d.add (.plain c)

/-- One more octet without a meaning. -/
def guarded (d : Draft) (c : Char) : Draft := d.add (.guarded c)

/-- The innermost layer is changed. -/
def change (d : Draft) (f : Layer → Layer) : Draft := { d with layer := f d.layer }

/-- A layer within the innermost one. -/
def push (d : Draft) (layer : Layer) : Draft := { d with layer, outer := d.layer :: d.outer }

/-- The innermost layer is left. -/
def pop (d : Draft) : Draft :=
  match d.outer with
  | layer :: outer => { d with layer, outer }
  | [] => d

/-- Something is opened. -/
def begin (d : Draft) (opening : Opening) : Draft :=
  { d with pieces := [], opened := (opening, d.pieces) :: d.opened }

/-- What was opened last is closed. -/
def finish (d : Draft) : Draft :=
  match d.opened with
  | (opening, before) :: opened =>
      { d with pieces := opening.close d.pieces.reverse :: before, opened }
  | [] => d

/-- The word that was read. -/
def word (d : Draft) : Word := d.pieces.reverse

/-- A quote, in the word itself; a text within the script has none. -/
def quoteMark (d : Draft) (inDocument : Bool) : Draft := if inDocument then d else d.add .quote

/-- Double quotes begin or end. -/
def toggle (d : Draft) (inDocument : Bool) : Draft :=
  (d.change fun l => if 0 < l.braces then { l with hasInnerQuote := !l.hasInnerQuote } else l)
    |>.quoteMark inDocument

/-- Quotes end. -/
def endQuote (d : Draft) (inDocument : Bool) (c : Char) : Draft :=
  if inDocument && d.layer.braces == 0 then d.plain c
  else
    let d := if d.layer.quotedBraces = 0 then
        d.change fun l => { l with region := .bare, isDouble := false }
      else d
    let d := { d with isQuoted := true }
    if c = '"' then d.toggle inDocument else d.quoteMark inDocument

/-- A brace that may close one. -/
def endBrace (d : Draft) : Draft :=
  if d.layer.hasInnerQuote || d.layer.braces == 0 then d.plain '}'
  else
    let d := d.change fun l => { l with braces := l.braces - 1 }
    if d.layer.braces = 0 && d.layer.isBraced then d.pop.finish
    else (d.change fun l => { l with quotedBraces := l.quotedBraces - 1 }).finish

/-- An opening of braces in a region for what follows. -/
def openBrace (d : Draft) (name : Octets) (use : Use) (inner : Region) : Draft :=
  let inner := if inner = .arithmetic then Region.double else inner
  let d := if inner ≠ d.layer.region ∨ d.layer.hasInnerQuote then
      d.push { Layer.ofRegion inner with isBraced := true, isDouble := inner != .bare }
    else d
  (d.change fun l =>
    { l with
      braces := l.braces + 1
      quotedBraces := if l.isDouble then l.quotedBraces + 1 else l.quotedBraces })
    |>.begin (.parameter name use)

/-- An octet that a backslash stands before. -/
def escaped (d : Draft) (inDocument : Bool) (c : Char) : Draft :=
  let l := d.layer
  let keepsBackslash := l.isDouble && c != '\\' && c != '\x60' && c != '$' &&
    (c != '"' || (inDocument && l.braces == 0)) && (c != '}' || l.braces == 0)
  let d := if keepsBackslash then d.guarded '\\' else d
  { d.guarded c with isQuoted := true }

end Draft

namespace Word

open Reading

/-- What the reader of a word is given. -/
structure Surroundings where
  /-- The reader of a script. -/
  script : Reading (List Node)
  /-- A bound on the number of steps. -/
  fuel : Nat
  /-- The delimiter of the text within the script that is read, if it is one. -/
  delimiter? : Option Announcement
  /-- The word is a delimiter itself. -/
  isDelimiter : Bool

/-- What is read is a text within the script. -/
def Surroundings.inDocument (s : Surroundings) : Bool := s.delimiter?.isSome

/-- The next octet in a layer. -/
def next (d : Draft) : Reading (Option Char) :=
  if d.layer.region = .single then take else takeJoined

/-! ### Scripts within words -/

/-- The text up to a backquote, without the backslashes that protect its octets. -/
def backquoted (isDouble : Bool) : Nat → Octets → Reading Octets
  | 0, _ => misread "EOF in backquote substitution"
  | fuel + 1, s => do
      match ← takeJoined with
      | none => misread "EOF in backquote substitution"
      | some '\x60' => return s.reverse
      | some '\\' => do
          match ← take with
          | some c =>
              if c = '\\' || c = '\x60' || c = '$' || (isDouble && c = '"') then
                backquoted isDouble fuel (c :: s)
              else backquoted isDouble fuel (c :: '\\' :: s)
          | none => misread "EOF in backquote substitution"
      | some c => do
          if c = '\n' then nextLine
          backquoted isDouble fuel (c :: s)

/-- A script within a word, which leaves the texts that are announced around it alone. -/
def nested (r : Reading (List Node)) : Reading Piece := do
  let announced := (← get).announced
  modify fun s => { s with announced := [] }
  let script ← r
  modify fun s => { s with announced }
  return .output script

/-- The script between backquotes, after the first of them. -/
def oldOutput (s : Surroundings) (d : Draft) : Reading Piece := do
  let text ← backquoted d.layer.isDouble s.fuel []
  nested (within text s.script)

/-- The end of a script between parentheses. -/
def closeOutput (script : List Node) : Reading (List Node) := do
  match (← get).ahead with
  | some (.sign ")") => do
      -- a text that is announced and not begun within the parentheses is empty
      modify fun s =>
        { s with
          ahead := none
          documents := (s.announced.map fun a => (a.number, [])) ++ s.documents }
      return script
  | token => unexpectedFor (token.getD .ended) (.sign ")")

/-- The script between parentheses, after the first of them. -/
def newOutput (s : Surroundings) : Reading Piece := nested do closeOutput (← s.script)

/-! ### Parameters -/

/-- The octets of a name, the first of which was read, and the octet after it. -/
def span (test : Char → Bool) : Nat → Octets → Option Char → Reading (Octets × Option Char)
  | 0, name, c => return (name.reverse, c)
  | fuel + 1, name, c => do
      match c with
      | some x => if test x then span test fuel (x :: name) (← takeJoined) else return (name.reverse, c)
      | none => return (name.reverse, c)

/-- The name of a parameter in braces, the octet after it, and whether its length is asked for.  There
may be no name. -/
structure Subject where
  name : Octets
  after : Option Char
  asksLength : Bool

/-- The octet as a sign that names a parameter. -/
def special? (c : Option Char) : Option Octets :=
  match c with
  | some c => if isSpecialName c then some [c] else none
  | none => none

/-- A name that begins with an octet, if one does, and the octet after it. -/
def spanName? (fuel : Nat) (c : Option Char) : Reading (Option (Octets × Option Char)) := do
  match c with
  | some x =>
      if isNameStart x then return some (← span isNameChar fuel [] c)
      else if x.isDigit then return some (← span Char.isDigit fuel [] c)
      else return none
  | none => return none

/-- What a number sign at the beginning of braces asks for. -/
def lengthSubject (fuel : Nat) : Reading (Option Subject) := do
  let c ← takeJoined
  match ← spanName? fuel c with
  | some (name, after) => return some ⟨name, after, true⟩
  | none => do
      let after ← takeJoined
      if c = some '}' ∨ after ≠ some '}' then
        -- the number sign is a name itself
        putBack after
        return some ⟨['#'], c, false⟩
      else
        match special? c with
        | some name => return some ⟨name, after, true⟩
        | none => do
            putBack after
            return none

/-- What braces ask for, from the first octet in them on. -/
def subject (fuel : Nat) (c : Option Char) : Reading (Option Subject) := do
  match ← spanName? fuel c with
  | some (name, after) => return some ⟨name, after, false⟩
  | none =>
      if c = some '#' then lengthSubject fuel
      else if c = some '}' then do
        putBack c
        return none
      else do
        let after ← takeJoined
        match special? c with
        | some name => return some ⟨name, after, false⟩
        | none => do
            putBack after
            return none

/-- The purpose of the word after a sign. -/
def purpose? : Option Char → Option Purpose
  | some '-' => some .instead
  | some '=' => some .assigned
  | some '?' => some .complaint
  | some '+' => some .whenSet
  | _ => none

/-- The use that a sign after a name announces. -/
def useOf (c : Option Char) : Reading Use := do
  match c with
  | some '}' => return .value
  | some ':' => do
      let c ← takeJoined
      match purpose? c with
      | some purpose => return .alternative purpose true
      | none => return if c = some '}' then .followed else .unknown
  | some '%' => trim true '%'
  | some '#' => trim false '#'
  | c =>
      match purpose? c with
      | some purpose => return .alternative purpose false
      | none => return .unknown
where
  /-- A pattern is cut off, the longest after two signs. -/
  trim (atEnd : Bool) (sign : Char) : Reading Use := do
    let c ← takeJoined
    if c = some sign then return .trim atEnd true
    else do
      putBack c
      return .trim atEnd false

/-- The region of the word that belongs to a use. -/
def regionOf (d : Draft) : Use → Region
  | .trim _ _ => .bare
  | _ => d.layer.region

/-- A parameter in braces, after the first of them. -/
def braced (s : Surroundings) (d : Draft) : Reading Draft := do
  match ← subject s.fuel (← takeJoined) with
  | none => return d.openBrace [] .unknown d.layer.region
  | some ⟨name, after, true⟩ => do
      putBack after
      return d.openBrace name (if after = some '}' then .length else .unknown) d.layer.region
  | some ⟨name, after, false⟩ => do
      match ← useOf after with
      | .value => return d.add (.parameter name .value [])
      | use => return d.openBrace name use (regionOf d use)

/-- What a dollar sign stands for. -/
def dollar (s : Surroundings) (d : Draft) : Reading Draft := do
  let c ← takeJoined
  match c with
  | some '(' =>
      if s.isDelimiter then literal c
      else do
        let after ← takeJoined
        if after = some '(' then
          let inner := { Layer.ofRegion .arithmetic with isDouble := true }
          return (d.push inner).begin .arithmetic
        else do
          putBack after
          return d.add (← newOutput s)
  | some '{' => if s.isDelimiter then literal c else braced s d
  | some x =>
      if s.isDelimiter then literal c
      else if isNameStart x then do
        let (name, after) ← span isNameChar s.fuel [] c
        putBack after
        return d.add (.parameter name .value [])
      else if isSpecialName x then return d.add (.parameter [x] .value [])
      else literal c
  | none => literal c
where
  /-- The dollar sign stands for itself. -/
  literal (c : Option Char) : Reading Draft := do
    putBack c
    return d.plain '$'

/-! ### Octets -/

/-- A parenthesis that may close an expression. -/
def closeParen (d : Draft) : Reading Draft := do
  if 0 < d.layer.parens then
    return (d.change fun l => { l with parens := l.parens - 1 }).plain ')'
  else
    let c ← takeJoined
    if c = some ')' then return d.pop.finish
    else do
      putBack c
      return d.plain ')'

/-- What an octet does that does not end the word. -/
def step (s : Surroundings) (d : Draft) (c : Char) : Reading Draft := do
  match d.layer.region.meaning c with
  | .guarded =>
      return if !s.inDocument || d.layer.isDouble || 0 < d.layer.braces then d.guarded c else d.plain c
  | .backslash => do
      match ← take with
      | some c => return d.escaped s.inDocument c
      | none => return d.guarded '\\'
  | .singleQuote =>
      return (d.change fun l => { l with region := .single }).quoteMark s.inDocument
  | .doubleQuote =>
      return (d.change fun l => { l with region := .double, isDouble := true }).toggle s.inDocument
  | .endQuote => return d.endQuote s.inDocument c
  | .dollar => dollar s d
  | .endBrace => return d.endBrace
  | .openParen => return (d.change fun l => { l with parens := l.parens + 1 }).plain c
  | .closeParen => closeParen d
  | .backquote => if s.isDelimiter then return d.plain c else return d.add (← oldOutput s d)
  | .lineEnd => do
      nextLine
      return d.plain c
  | _ => return d.plain c

/-- Whether an octet ends the word. -/
def endsHere (d : Draft) (c : Char) : Bool :=
  match d.layer.region.meaning c with
  | .lineEnd => d.layer.region == .bare && d.layer.braces == 0
  | .separator => d.layer.braces == 0
  | _ => false

/-- The tabs at the beginning of a line are passed. -/
def skipTabs : Nat → Option Char → Reading (Option Char)
  | 0, c => return c
  | fuel + 1, c => if c = some '\t' then do skipTabs fuel (← take) else return c

/-- Some octets are passed. -/
def takeMany : Nat → Reading Unit
  | 0 => return ()
  | n + 1 => do
      let _ ← take
      takeMany n

/-- The line that begins with an octet, up to its end. -/
def lineFrom (c : Option Char) : Reading Octets := do
  leaveEnded
  let rest := ((← get).passages.map Passage.rest).flatten
  return c.toList ++ (if c = some '\n' then [] else rest.takeWhile fun c => c != '\n')

/-- At the beginning of a line: the text ends there if the line is its delimiter. -/
def checkDelimiter (fuel : Nat) (a : Announcement) (c : Option Char) : Reading (Option Char) := do
  let c ← if a.stripsTabs then skipTabs fuel c else pure c
  let line := (← lineFrom c).filter fun c => c != '\n'
  if line = a.delimiter ∧ (c.isSome ∨ a.delimiter.isEmpty) then
    nextLine
    if c ≠ some '\n' then takeMany line.length
    return none
  return c

/-- A word from an octet on, up to the octet that ends it; in so many steps at most. -/
def letters (s : Surroundings) : Nat → Bool → Option Char → Draft → Reading (Draft × Option Char)
  | 0, _, _, _ => misread "Word too long"
  | fuel + 1, startsLine, c, d => do
      let c ← match startsLine, s.delimiter? with
        | true, some a => checkDelimiter s.fuel a c
        | _, _ => pure c
      match c with
      | none => return (d, none)
      | some x =>
          if endsHere d x then return (d, some x)
          else do
            let d ← step s d x
            letters s fuel (x == '\n' && d.layer.region.meaning x == .lineEnd) (← next d) d

/-! ### Words -/

/-- What is open at the end of a word, and must not be. -/
def checkClosed (s : Surroundings) (d : Draft) : Reading Unit := do
  if d.layer.region = .arithmetic then misread "Missing '))'"
  if d.layer.region ≠ .bare ∧ !s.inDocument then misread "Unterminated quoted string"
  if d.layer.braces ≠ 0 then misread "Missing '\x7d'"

/-- The mode of a redirection that begins with an arrow to the right. -/
def outputMode : Reading Mode := do
  let c ← takeJoined
  match c with
  | some '>' => return .append
  | some '|' => return .overwrite
  | some '&' => return .share
  | _ => do
      putBack c
      return .write

/-- The redirection of a descriptor that begins with an arrow. -/
def redirection (arrow : Char) (descriptor? : Option Nat) : Reading Token := do
  if arrow = '>' then return .redirection (descriptor?.getD 1) (← outputMode)
  else
    let descriptor := descriptor?.getD 0
    let c ← takeJoined
    match c with
    | some '<' => do
        let c ← takeJoined
        if c = some '-' then return .document descriptor true
        else do
          putBack c
          return .document descriptor false
    | some '&' => return .redirection descriptor .share
    | some '>' => return .redirection descriptor .update
    | _ => do
        putBack c
        return .redirection descriptor .read

/-- The descriptor that a word names before an arrow; it may name none. -/
def descriptorOf? : Word → Option (Option Nat)
  | [] => some none
  | [.plain c] => if c.isDigit then some (some (c.toNat - 48)) else none
  | _ => none

/-- **A word, or a redirection that begins where a word would**, from its first octet on. -/
def read (s : Surroundings) (c : Char) : Reading Token := do
  let (d, after) ← letters s s.fuel false (some c) (.start (.ofRegion .bare))
  checkClosed s d
  match after, d.isQuoted, descriptorOf? d.word with
  | some '<', false, some descriptor? => redirection '<' descriptor?
  | some '>', false, some descriptor? => redirection '>' descriptor?
  | _, _, _ => do
      putBack after
      modify fun t => { t with lastWord := d.word }
      return .word d.word d.isQuoted

/-- **A text within the script**, up to its delimiter. -/
def readDocument (s : Surroundings) (a : Announcement) : Reading Word := do
  let s := { s with delimiter? := some a }
  let layer := if a.verbatim then Layer.ofRegion .single
    else { Layer.ofRegion .double with isDouble := true }
  let d := Draft.start layer
  let (d, _) ← letters s s.fuel true (← next d) d
  checkClosed s d
  return d.word

/-- A text that is read as if it stood between double quotes. -/
def readQuoted (s : Surroundings) : Reading Word := do
  let d := Draft.start { Layer.ofRegion .double with isDouble := true }
  let s := { s with delimiter? := some ⟨0, ['\n'], false, false⟩ }
  let (d, _) ← letters s s.fuel false (← next d) d
  checkClosed s d
  return d.word

end Word

end CommandBot.Shell
