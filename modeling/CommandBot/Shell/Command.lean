/-
**Commands by their names.**

A name is looked for among the functions, among the builtins, and then among the files in the
directories of a search path.  A name with a slash in it is the path of a file.

* `CommandBot.Shell.Command.Builtin`, `CommandBot.Shell.Command.builtin?` — **the builtins**;
* `CommandBot.Shell.Command.Found` — what a name stands for;
* `CommandBot.Shell.Command.find` — **what a name is found to be**;
* `CommandBot.Shell.Command.describe` — what is said of a name;
* `CommandBot.Shell.Command.failure` — why a file cannot be executed.
-/

import CommandBot.Shell.Builtin.Control
import CommandBot.Shell.Builtin.Files
import CommandBot.Shell.Builtin.Naming
import CommandBot.Shell.Builtin.Printing

set_option relaxedAutoImplicit false
set_option autoImplicit false

namespace CommandBot.Shell.Command

open Exec

/-! ### Builtins -/

/-- What is known of a builtin beside what it does. -/
structure Kind where
  /-- Its failure ends the script, and assignments before it stay. -/
  isSpecial : Bool
  /-- Its arguments may assign. -/
  assigns : Bool

/-- A builtin like most others. -/
def Kind.usual : Kind := ⟨false, false⟩

/-- A special builtin. -/
def Kind.special : Kind := ⟨true, false⟩

/-- A special builtin whose arguments may assign. -/
def Kind.assigning : Kind := ⟨true, true⟩

/-- **The kind of the builtin of a name**, if there is one. -/
def kind? (name : String) : Option Kind :=
  if ["export", "local", "readonly"].contains name then some .assigning
  else if [".", ":", "break", "continue", "eval", "exec", "exit", "return", "set", "shift", "times",
      "trap", "unset"].contains name then some .special
  else if ["[", "alias", "bg", "cd", "chdir", "command", "echo", "false", "fg", "getopts", "hash",
      "jobs", "kill", "printf", "pwd", "read", "test", "true", "type", "ulimit", "umask", "unalias",
      "wait"].contains name then some .usual
  else none

/-! ### Files -/

/-- Why a file cannot be executed: what is said of it, and the status. -/
structure Failure where
  reason : String
  status : Nat

/-- There is no such file. -/
def Failure.notFound : Failure := ⟨"not found", 127⟩

/-- The file must not be executed. -/
def Failure.denied : Failure := ⟨"Permission denied", 126⟩

/-- **Why a file cannot be executed**, unless it can. -/
def failure (files : FileTree) (path : Octets) : Option Failure :=
  match files.find true path with
  | .error .missing => some .notFound
  | .error .notDirectory => some .notFound
  | .error fault => some ⟨fault.message, 127⟩
  | .ok place => if files.entry? place = some .program then none else some .denied

/-! ### Looking for a name -/

/-- What a name stands for. -/
inductive Found where
  | function (body : Node)
  | builtin (kind : Kind)
  /-- A file that can be executed. -/
  | program (path : Octets)
  /-- A file that is not looked at until it is executed. -/
  | path
  | missing (failure : Failure)

/-- The file of a name in some directories.  Something that cannot be executed is passed, but counts
if nothing else is found. -/
def search (files : FileTree) (name : Octets) : Failure → List Octets → Found
  | last, [] => .missing last
  | last, directory :: rest =>
      let path := Builtin.pathIn directory name
      match failure files path with
      | none => .program path
      | some f => search files name (if f.status = 126 then f else last) rest

/-- The directories in which commands are looked for if nothing else is said. -/
def standardPath : Octets :=
  "/usr/local/sbin:/usr/local/bin:/usr/sbin:/usr/bin:/sbin:/bin".toList

/-- The file of a name.  It is remembered, and not looked for again until the working directory
changes. -/
def locate (name : Octets) : Exec Found := do
  match (← own).located.get? (String.ofList name) with
  | some ⟨path, false⟩ => return .program path
  | _ => do
      let found := search (← files) name .notFound (← Builtin.searchPath)
      change fun o => { o with located := match found with
        | .program path => o.located.set (String.ofList name) ⟨path, false⟩
        | _ => o.located.erase (String.ofList name) }
      return found

/-- What a name is found to be, among the functions too or not; its file is found by a step. -/
def findBy (file : Exec Found) (withFunctions : Bool) (name : Octets) : Exec Found := do
  if name.contains '/' then return .path
  let o ← own
  let function? := if withFunctions then o.functions.get? (String.ofList name) else none
  match function?, kind? (String.ofList name) with
  | some body, _ => return .function body
  | none, some kind => return .builtin kind
  | none, none => file

/-- **What a name is found to be**, among the functions too or not. -/
def find (withFunctions : Bool) (name : Octets) : Exec Found :=
  findBy (locate name) withFunctions name

/-! ### What is said of a name -/

/-- What a name is found to be, in words; a path must lead somewhere. -/
def foundText (name : Octets) : Found → Exec (Option Octets)
  | .function _ => return some "a shell function".toList
  | .builtin kind =>
      return some (if kind.isSpecial then "a special shell builtin" else "a shell builtin").toList
  | .program path => return some path
  | .path => do
      match (← files).find true name with
      | .ok _ => return some name
      | .error _ => return none
  | .missing _ => return none

/-- What a name is found to be, as it would be written. -/
def foundName (name : Octets) : Found → Octets
  | .program path => path
  | _ => name

/-- **It is printed what a name stands for**, in words or as it would be written; the result is a
status.  Files are looked for in the standard directories if that is wished. -/
def describe (inWords inStandard : Bool) (name : Octets) : Exec Nat := do
  let say (text : Octets) : Exec Nat := do
    print (text ++ ['\n'])
    return 0
  if Lexeme.keywords.contains (String.ofList name) then
    say (if inWords then name ++ " is a shell keyword".toList else name)
  else
    match (← own).aliases.get? (String.ofList name) with
    | some value =>
        if inWords then say (name ++ " is an alias for ".toList ++ value)
        else say ("alias ".toList ++ name ++ '=' :: Parameter.quote value)
    | none => do
        let located := (← own).located
        match if inStandard then none else located.get? (String.ofList name) with
        | some l =>
            say (if inWords then name ++ " is a tracked alias for ".toList ++ l.path else l.path)
        | none => do
            let file : Exec Found := if inStandard then
                return search (← files) name .notFound (standardPath.splitOn ':')
              else locate name
            let found ← findBy file true name
            match ← foundText name found with
            | some text =>
                say (if inWords then name ++ " is ".toList ++ text else foundName name found)
            | none => do
                if inWords then print (name ++ ": not found\n".toList)
                return 127

/-- It is printed what names stand for. -/
def type : Builtin.Action := fun words => do
  let mut status := 0
  for word in words do
    status := status ||| (← describe true false word)
  return status

/-- It is printed what a name stands for, if that is wished; otherwise nothing happens. -/
def command : Builtin.Action := fun words => do
  let (chosen, words) ← Builtin.options "pvV" words
  match words.head? with
  | some name =>
      let inStandard := Builtin.chooses chosen 'p'
      if Builtin.chooses chosen 'V' then describe true inStandard name
      else if Builtin.chooses chosen 'v' then describe false inStandard name
      else return 0
  | none => return 0

/-- The place of a command in the order in which commands are listed. -/
def rank (name : String) : Nat :=
  let codes := name.toList.map Char.toNat
  (codes.headD 0 * 16 + codes.foldr (· + ·) 0) % 0x8000 % 31

/-- All files that names were found to be; those that will be looked for again are marked. -/
def locatedText (located : Table Located) : Octets :=
  (List.range 31).flatMap fun n =>
    (located.entries.filter fun (name, _) => rank name == n).flatMap fun (_, l) =>
      l.path ++ (if l.isStale then ['*'] else []) ++ ['\n']

/-- Names are looked for anew; those that are missing are complained of.  Without names the files that
are remembered are listed, or all of them are forgotten. -/
def hash : Builtin.Action := fun words => do
  let (chosen, words) ← Builtin.options "r" words
  if !chosen.isEmpty then
    change fun o => { o with located := .empty }
    return 0
  if words.isEmpty then print (locatedText (← own).located)
  let mut status := 0
  for word in words do
    change fun o => { o with located := o.located.erase (String.ofList word) }
    if let .missing f ← find true word then
      complain (word ++ ": ".toList ++ f.reason.toList)
      status := 1
  return status

/-! ### Execution -/

/-- The builtins that the host also has programs for, which do the same. -/
def isLikeProgram (name : Octets) : Bool :=
  ["[", "echo", "false", "kill", "printf", "pwd", "test", "true"].contains (String.ofList name)

/-- A complaint about a file that cannot be executed, after which the shell ends. -/
def refuse {α : Type} (name : Octets) (f : Failure) : Exec α := do
  complain (name ++ ": ".toList ++ f.reason.toList)
  setStatus f.status
  throw .ends

/-- The file of a name is executed in place of the shell.  What programs do nobody sees. -/
def execute (name : Octets) : Exec Unit := do
  let files ← files
  let directories ← Builtin.searchPath
  let failure? := if name.contains '/' then failure files name
    else
      match search files name .notFound directories with
      | .missing f => some f
      | _ => none
  match failure? with
  | some f => refuse name f
  | none => do
      setStatus 0
      throw .ends

/-- The builtins that need no more than the state of the shell. -/
def plain? (name : String) : Option Builtin.Action :=
  match name with
  | ":" => some Builtin.succeed
  | "[" => some Builtin.bracket
  | "alias" => some Builtin.aliasAll
  | "bg" => some Builtin.continueJob
  | "break" => some Builtin.leave
  | "cd" => some Builtin.cd
  | "chdir" => some Builtin.cd
  | "command" => some command
  | "continue" => some Builtin.again
  | "echo" => some Builtin.echo
  | "exit" => some Builtin.exit
  | "export" => some (Builtin.declare "export" .exported)
  | "false" => some Builtin.decline
  | "fg" => some Builtin.continueJob
  | "getopts" => some Builtin.getopts
  | "hash" => some hash
  | "jobs" => some Builtin.jobs
  | "kill" => some Builtin.kill
  | "local" => some Builtin.declareLocals
  | "printf" => some Builtin.printf
  | "pwd" => some Builtin.pwd
  | "read" => some Builtin.read
  | "readonly" => some (Builtin.declare "readonly" ⟨false, true, false⟩)
  | "return" => some Builtin.giveBack
  | "set" => some Builtin.set
  | "shift" => some Builtin.shift
  | "test" => some Builtin.test
  | "times" => some Builtin.times
  | "trap" => some Builtin.trap
  | "true" => some Builtin.succeed
  | "type" => some type
  | "ulimit" => some Builtin.ulimit
  | "umask" => some Builtin.umask
  | "unalias" => some Builtin.unaliasAll
  | "unset" => some Builtin.unset
  | "wait" => some Builtin.wait
  | _ => none

/-- A program runs in place of the shell. -/
def exec : Builtin.Action := fun words => do
  match words with
  | [] => return 0
  | name :: arguments => do
      match if isLikeProgram name then plain? (String.ofList name) else none with
      | some action => do
          change fun o => { o with runs := none }
          setStatus (← action arguments)
          let _ ← flush
          throw .ends
      | none => do
          execute name
          return 0

/-- **What the builtin of a name does.** -/
def action (run : Runner) (look : Outlook) (name : String) : Builtin.Action :=
  match name with
  | "." => Builtin.source run
  | "eval" => Builtin.evaluate run look
  | "exec" => exec
  | name => (plain? name).getD Builtin.succeed

end CommandBot.Shell.Command
