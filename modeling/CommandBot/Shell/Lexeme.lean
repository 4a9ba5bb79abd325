/-
**Reading tokens.**

Blanks part tokens and a number sign begins a comment.  What a word is taken for depends on what the
grammar expects next: a keyword, an alias, or just a word.  At the end of a line the texts that the
line announced are read.

* `CommandBot.Shell.Lexeme.keywords` — the words that may have a meaning of their own;
* `CommandBot.Shell.Lexeme.next` — **the next token**;
* `CommandBot.Shell.Lexeme.putBack` — a token is read again;
* `CommandBot.Shell.Lexeme.announce` — a text within the script is announced.
-/

import CommandBot.Shell.Word

set_option relaxedAutoImplicit false
set_option autoImplicit false

namespace CommandBot.Shell.Lexeme

open Reading

/-- What the reader of tokens is given. -/
structure Surroundings where
  /-- The reader of a script within a word. -/
  script : Reading (List Node)
  /-- A bound on the number of steps. -/
  fuel : Nat

/-- What the reader of a word is given. -/
def Surroundings.forWord (s : Surroundings) (isDelimiter : Bool) : Word.Surroundings :=
  ⟨s.script, s.fuel, none, isDelimiter⟩

/-! ### Texts within the script -/

/-- The texts that a line announced are read. -/
def readDocuments (s : Surroundings) : List Announcement → Reading Unit
  | [] => return ()
  | a :: later => do
      let word ← Word.readDocument (s.forWord false) a
      modify fun t => { t with documents := (a.number, word) :: t.documents }
      readDocuments s later

/-- The texts that are announced so far are read. -/
def readAnnounced (s : Surroundings) : Reading Unit := do
  let announced := (← get).announced
  modify fun t => { t with announced := [] }
  readDocuments s announced

/-- A text within the script is announced; the result is its number. -/
def announce (delimiter : Word) (isQuoted stripsTabs : Bool) : Reading Nat := do
  let s ← get
  let a : Announcement := ⟨s.count, delimiter.text, isQuoted, stripsTabs⟩
  set { s with announced := s.announced ++ [a], count := s.count + 1 }
  return s.count

/-! ### Tokens -/

/-- A comment is passed, up to the end of its line. -/
def skipComment : Nat → Reading Unit
  | 0 => return ()
  | fuel + 1 => do
      match ← take with
      | none => return ()
      | some '\n' => putBack (some '\n')
      | some _ => skipComment fuel

/-- A sign, which is another one if it stands twice. -/
def double (c : Char) (once twice : String) : Reading Token := do
  let after ← takeJoined
  if after = some c then return .sign twice
  putBack after
  return .sign once

/-- The token that comes next, whatever is expected; in so many steps at most. -/
def scan (s : Surroundings) : Nat → Reading Token
  | 0 => return .ended
  | fuel + 1 => do
      match ← takeJoined with
      | none => return .ended
      | some c =>
          match c with
          | ' ' => scan s fuel
          | '\t' => scan s fuel
          | '#' => do
              skipComment s.fuel
              scan s fuel
          | '\n' => do
              nextLine
              return .newline
          | '&' => double c "&" "&&"
          | '|' => double c "|" "||"
          | ';' => double c ";" ";;"
          | '(' => return .sign "("
          | ')' => return .sign ")"
          | _ => Word.read (s.forWord (← get).expectation.delimiter) c

/-- The token that was put back, or else the one that comes next. -/
def advance (s : Surroundings) : Reading Token := do
  match (← get).ahead with
  | some token => do
      modify fun t => { t with ahead := none }
      return token
  | none => scan s s.fuel

/-- A token after the ends of lines. -/
def skipLines (s : Surroundings) : Nat → Token → Reading Token
  | 0, token => return token
  | fuel + 1, token => do
      match token with
      | .newline => do
          readAnnounced s
          skipLines s fuel (← advance s)
      | _ => return token

/-- The words that may have a meaning of their own. -/
def keywords : List String :=
  ["!", "case", "do", "done", "elif", "else", "esac", "fi", "for", "if", "in", "then", "until",
    "while", "\x7b", "\x7d"]

/-- The keyword that a word is, if keywords are expected. -/
def keyword? (expected : Expectation) (text : Octets) : Option String :=
  let name := String.ofList text
  if expected.keywords && keywords.contains name then some name else none

/-- The token that is expected; words that are aliases are read as what they stand for, in so many
steps at most. -/
def recognize (s : Surroundings) : Nat → Expectation → Reading Token
  | 0, _ => return .ended
  | fuel + 1, expected => do
      let token ← advance s
      let token ← if expected.skipsLines then skipLines s s.fuel token else pure token
      -- an alias that a blank ended lets the next word be one
      let aliases := expected.aliases || (← get).expectation.aliases
      modify fun t => { t with expectation := .plain }
      match token with
      | .word word false =>
          match word.literal? with
          | none => return token
          | some text =>
              match keyword? expected text with
              | some name => return .keyword name
              | none => do
                  if !aliases then return token
                  match ← alias? text with
                  | none => return token
                  | some value => do
                      if !value.isEmpty then enterAlias text value
                      recognize s fuel { expected with aliases }
      | _ => return token

/-- **The next token.** -/
def next (s : Surroundings) : Reading Token := do recognize s s.fuel (← get).expectation

/-- A token is read again. -/
def putBack (token : Token) : Reading Unit := modify fun s => { s with ahead := some token }

end CommandBot.Shell.Lexeme
