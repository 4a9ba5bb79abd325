/-
**What remains to be read of a script.**

Octets are read from a text, and from the texts of aliases that were met on the way.  A backslash
before the end of a line joins the line to the next one.

* `CommandBot.Shell.Token` — the words and signs that a script is made of;
* `CommandBot.Shell.Source` — what remains to be read;
* `CommandBot.Shell.Misreading` — why a script cannot be read;
* `CommandBot.Shell.Reading` — a reader of scripts;
* `CommandBot.Shell.Reading.take`, `CommandBot.Shell.Reading.takeJoined` — **the next octet.**
-/

import CommandBot.Shell.Syntax
import CommandBot.Table

set_option relaxedAutoImplicit false
set_option autoImplicit false

namespace CommandBot.Shell

/-! ### Tokens -/

/-- A word or a sign of a script. -/
inductive Token where
  /-- The end of the script. -/
  | ended
  /-- The end of a line. -/
  | newline
  /-- A sign that parts or joins commands. -/
  | sign (s : String)
  /-- A word that has a meaning of its own where a command may begin. -/
  | keyword (s : String)
  /-- A redirection without its target. -/
  | redirection (descriptor : Nat) (mode : Mode)
  /-- A redirection to a text within the script, with or without the tabs before its lines. -/
  | document (descriptor : Nat) (stripsTabs : Bool)
  /-- A word, which may have quotes in it. -/
  | word (word : Word) (isQuoted : Bool)

/-- A token as a complaint names it. -/
def Token.describe : Token → String
  | ended => "end of file"
  | newline => "newline"
  | sign s => "\"" ++ s ++ "\""
  | keyword s => "\"" ++ s ++ "\""
  | redirection _ _ => "redirection"
  | document _ _ => "redirection"
  | word _ _ => "word"

/-- What the next token may be. -/
structure Expectation where
  /-- Ends of lines before it do not count. -/
  skipsLines : Bool
  /-- It may be a keyword. -/
  keywords : Bool
  /-- It may be an alias. -/
  aliases : Bool
  /-- It ends a text within the script. -/
  delimiter : Bool

namespace Expectation

/-- A word and nothing else. -/
def plain : Expectation := ⟨false, false, false, false⟩

/-- A command. -/
def command : Expectation := ⟨false, true, true, false⟩

/-- A command that may stand on a later line. -/
def laterCommand : Expectation := ⟨true, true, true, false⟩

end Expectation

/-! ### The source -/

/-- A text within the script that is announced and still to be read. -/
structure Announcement where
  number : Nat
  /-- The line that ends the text. -/
  delimiter : Octets
  /-- Whether the text is taken as it stands. -/
  verbatim : Bool
  stripsTabs : Bool

/-- A text that is read, or what remains of it. -/
structure Passage where
  rest : Octets
  /-- The alias that the text stands for, and those whose texts ended just before it; none if the text
  is no alias. -/
  names : List Octets
  /-- Whether a blank ends the text. -/
  endsBlank : Bool

/-- What remains to be read of a script. -/
structure Source where
  /-- The texts that are read, the innermost first. -/
  passages : List Passage
  /-- The number of the line. -/
  line : Nat
  /-- A token that was read and put back. -/
  ahead : Option Token
  /-- What the next token may be. -/
  expectation : Expectation
  /-- The word that was read last. -/
  lastWord : Word
  /-- The texts that begin on the next line. -/
  announced : List Announcement
  /-- The texts that were read. -/
  documents : List (Nat × Word)
  /-- The number of texts that were announced so far. -/
  count : Nat
  aliases : Table Octets
  /-- The aliases whose texts ended just before the octet that was taken last. -/
  ended : List Octets

/-- The source of a text. -/
def Source.ofText (s : Octets) : Source where
  passages := [⟨s, [], false⟩]
  line := 1
  ahead := none
  expectation := .plain
  lastWord := []
  announced := []
  documents := []
  count := 0
  aliases := Table.empty
  ended := []

/-- The end of the script was read and put back. -/
def Source.isEndAhead (s : Source) : Bool :=
  match s.ahead with
  | some .ended => true
  | _ => false

/-- The number of octets that remain. -/
def Source.size (s : Source) : Nat := (s.passages.map fun t => t.rest.length).foldr (· + ·) 0

/-- Why a script cannot be read. -/
structure Misreading where
  line : Nat
  reason : String

/-- A reader of scripts. -/
abbrev Reading := StateT Source (Except Misreading)

namespace Reading

/-- The reader that fails. -/
def misread {α : Type} (reason : String) : Reading α := do
  throw ⟨(← get).line, reason⟩

/-- The token before which a reader fails. -/
def unexpected {α : Type} (token : Token) : Reading α := misread (token.describe ++ " unexpected")

/-- A token that stands where another should. -/
def unexpectedFor {α : Type} (token wanted : Token) : Reading α :=
  misread (token.describe ++ " unexpected (expecting " ++ wanted.describe ++ ")")

/-- What the next token may be is said. -/
def expect (e : Expectation) : Reading Unit := modify fun s => { s with expectation := e }

/-- A line has ended. -/
def nextLine : Reading Unit := modify fun s => { s with line := s.line + 1 }

/-! ### Octets -/

/-- The texts of aliases that have ended before the next octet, and the other texts. -/
def partEnded : List Passage → List Passage × List Passage
  | [] => ([], [])
  | t :: outer =>
      if t.rest.isEmpty && !t.names.isEmpty then
        let (ended, others) := partEnded outer
        (t :: ended, others)
      else ([], t :: outer)

/-- The texts that have ended are left.  After a blank at the end of an alias the next word may be an
alias too. -/
def leaveEnded : Reading Unit := modify fun s =>
  let (ended, passages) := partEnded s.passages
  { s with
    passages
    ended := ended.flatMap Passage.names
    expectation.aliases := s.expectation.aliases || ended.any Passage.endsBlank }

/-- **The next octet**, if there is one. -/
def take : Reading (Option Char) := do
  leaveEnded
  let s ← get
  match s.passages with
  | ⟨c :: rest, names, blank⟩ :: outer => do
      set { s with passages := ⟨rest, names, blank⟩ :: outer }
      return some c
  | _ => return none

/-- An octet is put back; the end of the script needs no putting back. -/
def putBack (c : Option Char) : Reading Unit := modify fun s =>
  match c, s.passages with
  | some c, t :: outer => { s with passages := { t with rest := c :: t.rest } :: outer }
  | _, _ => s

/-- The next octet after a backslash that was taken: the backslash itself, unless it joins lines; in
so many steps at most. -/
def takeAfterBackslash : Nat → Reading (Option Char)
  | 0 => return some '\\'
  | fuel + 1 => do
      match ← take with
      | some '\n' => do
          nextLine
          match ← take with
          | some '\\' => takeAfterBackslash fuel
          | c => return c
      | c => do
          putBack c
          return some '\\'

/-- **The next octet, after lines that a backslash joins.** -/
def takeJoined : Reading (Option Char) := do
  match ← take with
  | some '\\' => takeAfterBackslash (← get).size
  | c => return c

/-- The text of an alias is read next. -/
def enterAlias (name text : Octets) : Reading Unit := modify fun s =>
  let last := text.getLast?
  { s with
    passages := ⟨text, name :: s.ended, last == some ' ' || last == some '\t'⟩ :: s.passages
    ended := [] }

/-- The text of an alias, unless it is being read or ended just before. -/
def alias? (name : Octets) : Reading (Option Octets) := do
  let s ← get
  if s.ended.contains name || s.passages.any fun t => t.names.contains name then return none
  return s.aliases.get? (String.ofList name)

/-- A reader that reads another text in between, whose lines are counted anew.  A token that was put
back comes first. -/
def within {α : Type} (text : Octets) (r : Reading α) : Reading α := do
  let before ← get
  set { before with passages := [⟨text, [], false⟩], line := 1 }
  let result ← r
  modify fun after => { after with passages := before.passages, line := before.line, ahead := none }
  return result

end Reading

end CommandBot.Shell
