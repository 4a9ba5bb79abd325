/-
**Scripts.**

A script is a list of commands; a command is made of words; a word is made of pieces, and some
pieces hold scripts again.  Texts are octets.

* `CommandBot.Shell.Piece`, `CommandBot.Shell.Word` — words and what they are made of;
* `CommandBot.Shell.Use` — what is made of the value of a parameter;
* `CommandBot.Shell.Redirection` — where a command reads and writes;
* `CommandBot.Shell.Node` — commands.
-/

import CommandBot.Text.Octets

set_option relaxedAutoImplicit false
set_option autoImplicit false

namespace CommandBot.Shell

/-! ### Uses -/

/-- What a word in braces is for. -/
inductive Purpose where
  /-- It stands in for a value that is missing. -/
  | instead
  /-- The same, and the parameter keeps it. -/
  | assigned
  /-- It is the complaint about a value that is missing. -/
  | complaint
  /-- It stands in for a value that is there. -/
  | whenSet
deriving DecidableEq, Repr

/-- What is made of the value of a parameter. -/
inductive Use where
  /-- The value itself. -/
  | value
  /-- The number of its octets. -/
  | length
  /-- A word, for a purpose; an empty value counts as missing if the flag is set. -/
  | alternative (purpose : Purpose) (emptyToo : Bool)
  /-- The value without the shortest or the longest beginning or end that fits a pattern. -/
  | trim (atEnd longest : Bool)
  /-- The value, with a word after it that nobody asked for. -/
  | followed
  /-- Nothing that is known. -/
  | unknown
deriving DecidableEq, Repr

/-! ### Redirections -/

/-- What a descriptor is opened for. -/
inductive Mode where
  /-- A file is read. -/
  | read
  /-- A file is read and written. -/
  | update
  /-- A file is written anew. -/
  | write
  /-- The same, even where files are protected. -/
  | overwrite
  /-- A file is written from its end on. -/
  | append
  /-- Another descriptor is shared. -/
  | share
  /-- A text within the script is read; it has a number. -/
  | document (number : Nat)
deriving DecidableEq, Repr

mutual

/-- A piece of a word. -/
inductive Piece where
  /-- An octet that stands in the script as it is. -/
  | plain (c : Char)
  /-- An octet without any meaning of its own. -/
  | guarded (c : Char)
  /-- A quote; what stands between two of them is quoted. -/
  | quote
  /-- The value of a parameter. -/
  | parameter (name : Octets) (use : Use) (word : List Piece)
  /-- The output of a script. -/
  | output (script : List Node)
  /-- The value of an arithmetic expression. -/
  | arithmetic (expression : List Piece)

/-- What is done to one descriptor of a command. -/
inductive Redirection where
  | mk (descriptor : Nat) (mode : Mode) (target : List Piece)

/-- A command. -/
inductive Node where
  /-- Assignments and words. -/
  | simple (line : Nat) (assignments words : List (List Piece))
      (redirections : List Redirection)
  /-- Commands of which each reads what the one before it writes; the shell may not wait for them. -/
  | pipeline (stages : List Node) (isWaitedFor : Bool)
  /-- A command whose success is reversed. -/
  | negation (body : Node)
  /-- A second command that runs after a success. -/
  | both (first second : Node)
  /-- A second command that runs after a failure. -/
  | either (first second : Node)
  /-- A command that is not waited for. -/
  | background (line : Nat) (body : Node) (redirections : List Redirection)
  /-- A script that leaves no trace in the shell. -/
  | subshell (line : Nat) (body : List Node) (redirections : List Redirection)
  /-- A script as one command. -/
  | group (body : List Node)
  /-- A command with redirections. -/
  | redirected (line : Nat) (body : Node) (redirections : List Redirection)
  /-- A script that runs after the success of another, and one that runs after its failure. -/
  | choice (condition success failure : List Node)
  /-- A script that runs as long as another succeeds, or fails. -/
  | loop (onSuccess : Bool) (condition body : List Node)
  /-- A script that runs for each of some words. -/
  | each (line : Nat) (parameter : Octets) (words : List (List Piece)) (body : List Node)
  /-- A script chosen by a pattern. -/
  | cases (line : Nat) (word : List Piece) (arms : List (List (List Piece) × List Node))
  /-- A script that gets a name. -/
  | function (line : Nat) (name : Octets) (body : Node)

end

/-- A word of a script. -/
abbrev Word := List Piece

/-! ### Names -/

/-- An octet that a name may begin with. -/
def isNameStart (c : Char) : Bool := c.isAlpha || c == '_'

/-- An octet of a name. -/
def isNameChar (c : Char) : Bool := c.isAlphanum || c == '_'

/-- A name of a parameter. -/
def isName : Octets → Bool
  | [] => false
  | c :: rest => isNameStart c && rest.all isNameChar

/-- A parameter that one sign names. -/
def isSpecialName (c : Char) : Bool := "@*#?-$!".toList.contains c || c.isDigit

namespace Word

/-- The text of a word that holds nothing but octets as they are. -/
def literal? : Word → Option Octets
  | [] => some []
  | .plain c :: rest => (literal? rest).map fun s => c :: s
  | _ => none

/-- The octets of a word, with and without a meaning. -/
def text : Word → Octets
  | [] => []
  | .plain c :: rest => c :: text rest
  | .guarded c :: rest => c :: text rest
  | _ :: rest => text rest

/-- A text as a word without a meaning. -/
def verbatim (s : Octets) : Word := s.map Piece.guarded

/-- The name that a word begins with, and what follows it. -/
def spanName : Word → Octets × Word
  | .plain c :: rest =>
      if isNameChar c then
        let (name, rest) := spanName rest
        (c :: name, rest)
      else ([], .plain c :: rest)
  | word => ([], word)

/-- The name and the value of a word that assigns. -/
def assignment? (word : Word) : Option (Octets × Word) :=
  match spanName word with
  | (name, .plain '=' :: value) => if isName name then some (name, value) else none
  | _ => none

end Word

end CommandBot.Shell
