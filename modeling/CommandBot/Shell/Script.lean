/-
**Reading scripts.**

A script is read line by line; a line goes on until all commands that it begins are complete.
Keywords count only where a command may begin.

* `CommandBot.Shell.Script.Extent` — how much of a script is read;
* `CommandBot.Shell.Script.read` — **the commands of so much of a script**;
* `CommandBot.Shell.Script.readLine` — the commands of the next line;
* `CommandBot.Shell.Script.quotedWord` — a text as if it stood between double quotes.
-/

import CommandBot.Shell.Lexeme

set_option relaxedAutoImplicit false
set_option autoImplicit false

namespace CommandBot.Shell.Script

open Reading

/-- How much of a script is read. -/
inductive Extent where
  /-- The commands up to the end of a line. -/
  | line
  /-- The commands up to a token that ends them; at least one. -/
  | body
  /-- The same, and maybe none. -/
  | arm
  /-- A single command. -/
  | single
deriving DecidableEq, Repr

/-- The readers of the parts of a command, and a bound on their steps. -/
structure Readers where
  read : Extent → Reading (List Node)
  fuel : Nat

/-! ### Tokens -/

/-- What the reader of tokens is given. -/
def Readers.surroundings (r : Readers) : Lexeme.Surroundings := ⟨r.read .arm, r.fuel⟩

/-- The next token, where nothing but a word is expected. -/
def next (r : Readers) : Reading Token := Lexeme.next r.surroundings

/-- The next token, where something is expected. -/
def nextAs (r : Readers) (e : Expectation) : Reading Token := do
  expect e
  next r

/-- The signs and keywords that end a list of commands. -/
def closing : List String :=
  [")", ";;", "do", "done", "elif", "else", "esac", "fi", "then", "\x7d"]

/-- A token that ends a list of commands. -/
def isClosing : Token → Bool
  | .sign s => closing.contains s
  | .keyword s => closing.contains s
  | .ended => true
  | _ => false

/-- The sign or the keyword that a token is. -/
def mark? : Token → Option String
  | .sign s => some s
  | .keyword s => some s
  | _ => none

/-- A sign or a keyword must stand here. -/
def require (r : Readers) (wanted : Token) : Reading Unit := do
  let token ← next r
  if mark? token ≠ mark? wanted then unexpectedFor token wanted

/-! ### Redirections -/

/-- The target of a redirection. -/
def target (r : Readers) : Reading (Word × Bool) := do
  match ← next r with
  | .word word isQuoted => return (word, isQuoted)
  | token => unexpected token

/-- The redirection that a token begins, if it begins one. -/
def redirection? (r : Readers) : Token → Reading (Option Redirection)
  | .redirection descriptor mode => do
      let (word, _) ← target r
      return some (.mk descriptor mode word)
  | .document descriptor stripsTabs => do
      expect { Expectation.plain with delimiter := true }
      let (word, isQuoted) ← target r
      let number ← Lexeme.announce word isQuoted stripsTabs
      return some (.mk descriptor (.document number) [])
  | _ => return none

/-- The redirections that follow a command. -/
def redirections (r : Readers) : Nat → Expectation → Reading (List Redirection)
  | 0, _ => return []
  | fuel + 1, e => do
      let token ← nextAs r e
      match ← redirection? r token with
      | some first => return first :: (← redirections r fuel .plain)
      | none => do
          Lexeme.putBack token
          return []

/-! ### Simple commands -/

/-- The assignments, words and redirections of a command, in reverse. -/
structure Simple where
  assignments : List Word
  words : List Word
  redirections : List Redirection

namespace Simple

/-- A command without anything. -/
def empty : Simple := ⟨[], [], []⟩

/-- The command with one more word, which may be an assignment. -/
def addWord (c : Simple) (word : Word) : Simple :=
  if c.words.isEmpty && word.assignment?.isSome then { c with assignments := word :: c.assignments }
  else { c with words := word :: c.words }

/-- The command has a single word and nothing else. -/
def isName (c : Simple) : Bool :=
  c.words.length == 1 && c.assignments.isEmpty && c.redirections.isEmpty

/-- The command as a node. -/
def node (c : Simple) (line : Nat) : Node :=
  .simple line c.assignments.reverse c.words.reverse c.redirections.reverse

end Simple

/-- Names of builtins that no function can have. -/
def specialNames : List String :=
  [".", ":", "break", "continue", "eval", "exec", "exit", "export", "local", "readonly", "return",
    "set", "shift", "times", "trap", "unset"]

/-- The name of a function. -/
def functionName (words : List Word) : Reading Octets := do
  match words.map Word.literal? with
  | [some s] =>
      if isName s && !specialNames.contains (String.ofList s) then return s
      else misread "Bad function name"
  | _ => misread "Bad function name"

/-- The function whose name was read, from the parenthesis after the name. -/
def function (r : Readers) (words : List Word) : Reading Node := do
  require r (.sign ")")
  let name ← functionName words
  let line := (← get).line
  expect .laterCommand
  match ← r.read .single with
  | body :: _ => return .function line name body
  | [] => return .function line name (.group [])

/-- The command that begins with what was read so far. -/
def simple (r : Readers) (line : Nat) : Nat → Simple → Reading Node
  | 0, c => return c.node line
  | fuel + 1, c => do
      let token ← nextAs r { Expectation.plain with aliases := c.words.isEmpty }
      match token with
      | .word word _ => simple r line fuel (c.addWord word)
      | _ =>
          match ← redirection? r token with
          | some first => simple r line fuel { c with redirections := first :: c.redirections }
          | none =>
              if mark? token = some "(" ∧ c.isName then function r c.words
              else do
                Lexeme.putBack token
                return c.node line

/-! ### Compound commands -/

/-- The alternatives of a choice, from the condition on. -/
def choice (r : Readers) : Nat → Reading Node
  | 0 => misread "Script too long"
  | fuel + 1 => do
      let condition ← r.read .body
      require r (.keyword "then")
      let success ← r.read .body
      let token ← next r
      match mark? token with
      | some "elif" => return .choice condition success [← choice r fuel]
      | some "else" => return .choice condition success (← r.read .body)
      | _ => do
          Lexeme.putBack token
          return .choice condition success []

/-- A loop, from its condition on. -/
def loop (r : Readers) (onSuccess : Bool) : Reading Node := do
  let condition ← r.read .body
  require r (.keyword "do")
  let body ← r.read .body
  return .loop onSuccess condition body

/-- The words up to the end of a line or a semicolon. -/
def wordsToEnd (r : Readers) : Nat → Reading (List Word)
  | 0 => return []
  | fuel + 1 => do
      let token ← next r
      match token with
      | .word word _ => return word :: (← wordsToEnd r fuel)
      | .newline => return []
      | .sign ";" => return []
      | _ => unexpected token

/-- The arguments of the script, each as a word of its own. -/
def allArguments : Word := [.quote, .parameter ['@'] .value [], .quote]

/-- The words that a loop runs through; without any they are the arguments of the script. -/
def loopWords (r : Readers) : Reading (List Word) := do
  let token ← nextAs r .laterCommand
  match mark? token with
  | some "in" => wordsToEnd r r.fuel
  | some ";" => return [allArguments]
  | _ => do
      Lexeme.putBack token
      return [allArguments]

/-- A loop over words, from its parameter on. -/
def each (r : Readers) (line : Nat) : Reading Node := do
  let name ← match ← next r with
    | .word word false => pure ((word.literal?).getD [])
    | _ => pure []
  if !isName name then misread "Bad for loop variable"
  let words ← loopWords r
  expect .laterCommand
  require r (.keyword "do")
  let body ← r.read .body
  return .each line name words body

/-- A pattern of an arm: the word that was read last, whatever token was. -/
def pattern : Reading Word := return (← get).lastWord

/-- The patterns of an arm, of which the first was read, up to the parenthesis. -/
def patterns (r : Readers) : Nat → Reading (List Word)
  | 0 => return []
  | fuel + 1 => do
      let first ← pattern
      let token ← next r
      match mark? token with
      | some "|" => do
          let _ ← next r
          return first :: (← patterns r fuel)
      | some ")" => return [first]
      | _ => unexpectedFor token (.sign ")")

/-- The arms of a case, up to its end. -/
def arms (r : Readers) : Nat → Reading (List (List Word × List Node))
  | 0 => return []
  | fuel + 1 => do
      let first ← nextAs r { Expectation.plain with skipsLines := true, keywords := true }
      match mark? first with
      | some "esac" => return []
      | mark => do
          if mark = some "(" then
            let _ ← next r
          let patterns ← patterns r r.fuel
          let body ← r.read .arm
          let token ← next r
          match mark? token with
          | some "esac" => return [(patterns, body)]
          | some ";;" => return (patterns, body) :: (← arms r fuel)
          | _ => unexpectedFor token (.sign ";;")

/-- A case, from its word on. -/
def cases (r : Readers) (line : Nat) : Reading Node := do
  let token ← next r
  match token with
  | .word word _ => do
      expect .laterCommand
      require r (.keyword "in")
      return .cases line word (← arms r r.fuel)
  | _ => unexpectedFor token (.word [] false)

/-- What a mark begins, with the token that must end it. -/
def compound (r : Readers) (line : Nat) (token : Token) : Reading (Node × Option Token) := do
  match mark? token with
  | some "if" => return (← choice r r.fuel, some (.keyword "fi"))
  | some "while" => return (← loop r true, some (.keyword "done"))
  | some "until" => return (← loop r false, some (.keyword "done"))
  | some "for" => return (← each r line, some (.keyword "done"))
  | some "case" => return (← cases r line, none)
  | some "(" => return (.subshell line (← r.read .body) [], some (.sign ")"))
  | some "\x7b" => return (grouped (← r.read .body), some (.keyword "\x7d"))
  | _ => unexpected token
where
  /-- Commands between braces, which are nothing but the command if there is one alone. -/
  grouped : List Node → Node
    | [node] => node
    | body => .group body

/-- A command with the redirections that follow it.  They take the place of those that a subshell has,
which may stand between braces. -/
def redirect (line : Nat) (node : Node) (redirections : List Redirection) : Node :=
  match node, redirections with
  | node, [] => node
  | .subshell line body _, redirections => .subshell line body redirections
  | node, redirections => .redirected line node redirections

/-- **A command.** -/
def command (r : Readers) : Reading Node := do
  let line := (← get).line
  let token ← next r
  match token with
  | .word _ _ => commandOf token
  | .redirection _ _ => commandOf token
  | .document _ _ => commandOf token
  | _ => do
      let (node, ending?) ← compound r line token
      if let some ending := ending? then require r ending
      return redirect line node (← redirections r r.fuel .command)
where
  /-- A simple command that begins with a token. -/
  commandOf (token : Token) : Reading Node := do
    Lexeme.putBack token
    simple r (← get).line r.fuel .empty

/-! ### Lists -/

/-- The further stages of a pipeline. -/
def stages (r : Readers) : Nat → Reading (List Node)
  | 0 => return []
  | fuel + 1 => do
      let token ← next r
      if mark? token = some "|" then
        expect .laterCommand
        let stage ← command r
        return stage :: (← stages r fuel)
      else
        Lexeme.putBack token
        return []

/-- A pipeline, whose success may be reversed. -/
def pipeline (r : Readers) : Reading Node := do
  let token ← next r
  let negated := mark? token == some "!"
  if negated then expect .command else Lexeme.putBack token
  let first ← command r
  let later ← stages r r.fuel
  let node := if later.isEmpty then first else .pipeline (first :: later) true
  return if negated then .negation node else node

/-- The pipelines that are joined to the one before them. -/
def joined (r : Readers) : Nat → Node → Reading Node
  | 0, before => return before
  | fuel + 1, before => do
      let token ← next r
      match mark? token with
      | some "&&" => do
          expect .laterCommand
          joined r fuel (.both before (← pipeline r))
      | some "||" => do
          expect .laterCommand
          joined r fuel (.either before (← pipeline r))
      | _ => do
          Lexeme.putBack token
          return before

/-- Pipelines joined by their success. -/
def conditional (r : Readers) : Reading Node := do joined r r.fuel (← pipeline r)

/-- A command that is not waited for. -/
def inBackground : Node → Node
  | .pipeline stages _ => .pipeline stages false
  | .redirected line body redirections => .background line body redirections
  | node => .background 0 node []

/-- A list of commands. -/
def list (r : Readers) (extent : Extent) : Nat → Bool → Reading (List Node)
  | 0, _ => misread "Script too long"
  | fuel + 1, mayBeEmpty => do
      let token ← nextAs r (if extent = .line then .command else .laterCommand)
      match token with
      | .newline => do
          Lexeme.readAnnounced r.surroundings
          return []
      | .ended => do
          Lexeme.readAnnounced r.surroundings
          Lexeme.putBack .ended
          return []
      | _ => do
          Lexeme.putBack token
          if extent != .line && mayBeEmpty && isClosing token then return []
          let first ← conditional r
          let after ← next r
          match after with
          | .newline => do
              Lexeme.putBack after
              return first :: (← list r extent fuel true)
          | .ended => do
              Lexeme.putBack after
              return first :: (← list r extent fuel true)
          | .sign "&" => return inBackground first :: (← list r extent fuel true)
          | .sign ";" => return first :: (← list r extent fuel true)
          | _ => do
              if extent = .line then unexpected after
              Lexeme.putBack after
              return [first]

/-- **The commands of so much of a script**, read in so many steps at most. -/
def read : Nat → Extent → Reading (List Node)
  | 0, _ => misread "Script too deep"
  | fuel + 1, .single => return [← command ⟨read fuel, fuel⟩]
  | fuel + 1, extent => list ⟨read fuel, fuel⟩ extent fuel (extent == .arm)

/-- The number of steps that a source may take to read. -/
def steps (s : Source) : Nat := 
  16 * (s.size + (s.aliases.entries.map fun e => e.2.length).foldr (· + ·) 0) + 400

/-- The reader of a line; it gives nothing at the end of the script. -/
def lineReader (fuel : Nat) : Reading (Option (List Node)) := do
  modify fun s => { s with ahead := none, expectation := .plain, announced := [] }
  let nodes ← read fuel .line
  if nodes.isEmpty && (← get).ahead matches some .ended then return none
  return some nodes

/-- The commands of the next line of a source, and what remains after it; nothing at the end. -/
def readLine (s : Source) : Except Misreading (Option (List Node) × Source) :=
  (lineReader (steps s)).run s

/-- A text as if it stood between double quotes. -/
def quotedWord (s : Source) : Except Misreading (Word × Source) :=
  let fuel := steps s
  (Word.readQuoted ⟨read fuel .arm, fuel, none, false⟩).run s

end CommandBot.Shell.Script
