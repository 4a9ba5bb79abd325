/-
**Command lines.**

A command line is given to a new shell, which reads nothing and writes to two sinks.  A line that
begins with a sign is taken for switches of the shell, and then there is no line to run.

* `CommandBot.Shell.Launch.start` — a shell at its start;
* `CommandBot.Shell.Launch.script?` — the script that a command line is, unless it is taken for
  switches;
* `CommandBot.Shell.run` — **what a command line leaves**, and the files after it.
-/

import CommandBot.Shell.Run

set_option relaxedAutoImplicit false
set_option autoImplicit false

namespace CommandBot.Shell

namespace Launch

open Exec

/-! ### The start -/

/-- The number of the process of a shell. -/
def processNumber : Nat := 4096

/-- The parameters at the start that the shell itself keeps. -/
def keptParameters : List (String × String) := [
  ("IFS", String.ofList Separators.standard),
  ("OPTIND", "1"),
  ("PS1", "# "),
  ("PS2", "> "),
  ("PS4", "+ ")]

/-- The parameters at the start that come from outside of the shell. -/
def givenParameters (directory : Octets) : List (String × Octets) := [
  ("HOME", "/root".toList),
  ("PATH", Command.standardPath),
  ("PWD", directory)]

/-- The parameters at the start. -/
def parameters (directory : Octets) : Table Variable :=
  Table.ofList (
    (keptParameters.map fun (name, value) => (name, ⟨some value.toList, false, false, true⟩)) ++
    ((givenParameters directory).map fun (name, value) =>
      (name, ⟨some value, true, false, name == "PATH"⟩)) ++
    [("PPID", ⟨some ['1'], false, false, false⟩)])

/-- What a shell has for itself at its start. -/
def own (directory : Octets) : Own where
  number := processNumber
  variableTable := parameters directory
  arguments := []
  optionIndex := some 1
  optionOffset := none
  functions := Table.empty
  located := Table.empty
  aliases := Table.empty
  switches := []
  descriptors := [(0, 0), (1, 1), (2, 2)]
  redirected := []
  locals := []
  traps := []
  ignored := []
  pending := []
  loops := 0
  skip := none
  calls := 0
  line := 0
  lineRead := 1
  isEndAhead := false
  runs := none
  status := 0
  outputStatus := 0
  keptStatus := none
  buffer := []
  isShowing := false
  jobs := []
  lastProcess := none
  directory := directory
  mask := 0o22
  limits := []

/-- The streams at the start: nothing to read, a sink for the output and one for complaints. -/
def streams (files : FileTree) : Streams where
  files := files
  opened := #[
    ⟨.device .null, 0, true, false, false⟩,
    ⟨.sink 0, 0, false, true, false⟩,
    ⟨.sink 1, 0, false, true, false⟩]
  sinks := #[⟨[], none⟩, ⟨[], none⟩]
  sources := #[]

/-- **A shell at its start.** -/
def start (files : FileTree) : Machine where
  own := own (FileTree.pathOf files.here)
  streams := streams files
  documents := []
  nextNumber := processNumber + 1
  outer := []
  mail := []

/-! ### Switches -/

/-- What a word that is taken for switches lacks. -/
def switchFault (letters : Octets) : Octets :=
  match letters.find? fun c => !"clo".toList.contains c && (Switch.ofLetter? c).isNone with
  | some c => "Illegal option -".toList ++ [c]
  | none => "-c requires an argument".toList

/-- **The script that a command line is**, unless it is taken for switches. -/
def script? (line : Octets) : Except Octets Octets :=
  match line with
  | ['-', '-'] => .error (switchFault [])
  | '-' :: letters => .error (switchFault letters)
  | '+' :: letters => .error (switchFault letters)
  | line => .ok line

/-- A whole command line runs. -/
def script (line : Octets) : Exec Unit := do
  match script? line with
  | .error fault => fail fault
  | .ok text => do
      let _ ← Process.runText (Run.list Run.depth) ⟨false, true⟩ false text

/-- A whole command line runs, with what is to be done at its end. -/
def whole (line : Octets) : Exec Unit := do
  Process.conclude (Run.list Run.depth) (← attempt (script line))

/-- What a shell leaves that ended in a state. -/
def outcome (result : Except Stop Unit) (m : Machine) : Host.Outcome :=
  let output := Octets.toBytes (m.streams.text 0)
  let errors := Octets.toBytes (m.streams.text 1)
  match Process.endingOf m.own result with
  | .exited status => .ended (.exited (.ofNat status)) output errors
  | .killed signal => .ended (.killed (.ofNat signal) false) output errors
  | .running => .unstartable "too many steps"

end Launch

/-- **What a command line leaves**, and the files after it.  One with a NUL cannot be started. -/
def run (line : String) (files : FileTree) : Host.Outcome × FileTree :=
  if line.toList.contains '\x00' then (.unstartable "nul byte found in provided data", files)
  else
    let (result, m) := (Launch.whole (Octets.ofText line.toList)).run.run (Launch.start files.later)
    (Launch.outcome result m, { m.streams.files with here := files.here })

end CommandBot.Shell
