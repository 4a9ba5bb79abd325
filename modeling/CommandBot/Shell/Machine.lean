/-
**The state of a shell.**

A shell has parameters, functions, descriptors and much more of its own; a subshell works on a copy
of that.  Files and streams are shared by all.

* `CommandBot.Shell.Own` — what a shell has for itself;
* `CommandBot.Shell.Machine` — the whole state;
* `CommandBot.Shell.Stop` — why a script ends before its last command;
* `CommandBot.Shell.Exec` — a step of a script;
* `CommandBot.Shell.Exec.complain`, `CommandBot.Shell.Exec.fail` — complaints, after which the script
  goes on or ends;
* `CommandBot.Shell.Exec.receive` — **a signal reaches the shell.**
-/

import CommandBot.Shell.Script
import CommandBot.Shell.Signal
import CommandBot.Shell.Stream
import CommandBot.Shell.Switch

set_option relaxedAutoImplicit false
set_option autoImplicit false

namespace CommandBot.Shell

/-! ### The shell -/

/-- A parameter with a name. -/
structure Variable where
  /-- Its value, if it is set. -/
  value? : Option Octets
  isExported : Bool
  isReadOnly : Bool
  /-- The shell keeps it even if it is unset. -/
  isKept : Bool

/-- What is restored at the end of a function. -/
inductive Saved where
  | variable (name : Octets) (before : Option Variable)
  | switches (before : Switches)

/-- Commands that are passed on the way out of something. -/
inductive Skip where
  /-- So many loops end. -/
  | leave (loops : Nat)
  /-- So many loops but one end, and that one begins anew. -/
  | again (loops : Nat)
  /-- A function or a file of commands ends, with a status of its own or not. -/
  | back (hasStatus : Bool)
deriving DecidableEq, Repr

/-- How a process ended. -/
inductive Ending where
  | exited (status : Nat)
  | killed (signal : Nat)
  /-- It did not end at all. -/
  | running
deriving DecidableEq, Repr

/-- The status that tells of an ending. -/
def Ending.status : Ending → Nat
  | exited status => status
  | killed signal => 128 + signal
  | running => 0

/-- A process that the shell did not wait for. -/
structure Job where
  /-- The number by which the shell knows it. -/
  slot : Nat
  /-- The number of the process. -/
  process : Nat
  ending : Ending
  /-- The shell waited for it since. -/
  isWaited : Bool

/-- The limits of a resource. -/
structure Limit where
  soft : Option Nat
  hard : Option Nat

/-- The file that the name of a command was found to be. -/
structure Located where
  path : Octets
  /-- The working directory changed since, so that the file is looked for again. -/
  isStale : Bool

/-- What a shell has for itself. -/
structure Own where
  /-- The number of the process. -/
  number : Nat
  variableTable : Table Variable
  /-- The arguments of the script or the function. -/
  arguments : List Octets
  /-- The argument that is looked at next for options, unless that is unknown. -/
  optionIndex : Option Nat
  /-- The place within the argument before it. -/
  optionOffset : Option Nat
  functions : Table Node
  /-- The files that names of commands were found to be. -/
  located : Table Located
  aliases : Table Octets
  switches : Switches
  /-- What the descriptors lead to. -/
  descriptors : List (Nat × Nat)
  /-- The descriptors to restore when redirections end, the innermost redirections first. -/
  redirected : List (List (Nat × Option Nat))
  /-- What is to be restored when functions end, the innermost function first. -/
  locals : List (List Saved)
  /-- What is done on signals, and at the end for signal zero. -/
  traps : List (Nat × Octets)
  /-- The signals that do nothing. -/
  ignored : List Nat
  /-- The signals that were caught and not yet acted on. -/
  pending : List Nat
  /-- The number of loops around the command. -/
  loops : Nat
  skip : Option Skip
  /-- The number of functions around the command. -/
  calls : Nat
  /-- The line of the command. -/
  line : Nat
  /-- The line up to which the script was read. -/
  lineRead : Nat
  /-- The end of the script was met when the command was read, and waits to be read again. -/
  isEndAhead : Bool
  /-- The builtin or the file of commands that runs, for complaints. -/
  runs : Option Octets
  /-- The status of the last command. -/
  status : Nat
  /-- The status of the last script within a word. -/
  outputStatus : Nat
  /-- The status that a trap or the end of the shell goes back to. -/
  keptStatus : Option Nat
  /-- What is written to the output at the end of a builtin, in reverse. -/
  buffer : List Octets
  /-- A command is being shown. -/
  isShowing : Bool
  jobs : List Job
  /-- The last process that the shell did not wait for. -/
  lastProcess : Option Nat
  /-- The working directory as the script names it. -/
  directory : Octets
  mask : Nat
  limits : List (Char × Limit)

/-- The whole state. -/
structure Machine where
  own : Own
  streams : Streams
  /-- The texts within the script. -/
  documents : List (Nat × Word)
  /-- The number of the next process. -/
  nextNumber : Nat
  /-- The processes around the one that runs. -/
  outer : List Nat
  /-- The signals that were sent to other processes. -/
  mail : List (Nat × Nat)

/-- Why a script ends before its last command. -/
inductive Stop where
  /-- There was a complaint. -/
  | failed
  /-- The shell was told to exit. -/
  | exits
  /-- Nothing is left to do. -/
  | ends
  /-- The shell is killed. -/
  | killed (signal : Nat)
  /-- The script takes too many steps. -/
  | endless
deriving DecidableEq, Repr

/-- A step of a script. -/
abbrev Exec := ExceptT Stop (StateM Machine)

/-- What awaits a command. -/
structure Outlook where
  /-- Its status is looked at. -/
  isTested : Bool
  /-- The shell ends after it. -/
  isLast : Bool

namespace Outlook

/-- Nothing in particular awaits the command. -/
def none : Outlook := ⟨false, false⟩

/-- The status of the command is looked at. -/
def tested : Outlook := ⟨true, false⟩

/-- The shell goes on after the command. -/
def goingOn (o : Outlook) : Outlook := { o with isLast := false }

end Outlook

/-- A runner of scripts. -/
abbrev Runner := Outlook → List Node → Exec Unit

namespace Exec

/-! ### Parts of the state -/

/-- The part that the shell has for itself. -/
def own : Exec Own := return (← get).own

/-- The part that the shell has for itself is changed. -/
def change (f : Own → Own) : Exec Unit := modify fun m => { m with own := f m.own }

/-- The status is set. -/
def setStatus (n : Nat) : Exec Unit := change fun o => { o with status := n }

/-- The status of the last command. -/
def status : Exec Nat := return (← own).status

/-- Whether a switch is on. -/
def isOn (switch : Switch) : Exec Bool := return (← own).switches.isOn switch

/-- The files. -/
def files : Exec FileTree := return (← get).streams.files

/-- The streams are changed, with a result. -/
def withStreams {α : Type} (f : Streams → α × Streams) : Exec α := do
  let (a, streams) := f (← get).streams
  modify fun m => { m with streams }
  return a

/-! ### Steps within steps -/

/-- A step, and the reason why it stopped if it did. -/
def attempt {α : Type} (body : Exec α) : Exec (Except Stop α) :=
  ExceptT.mk do return .ok (← body.run)

/-- A step stops for a reason, or gives its result. -/
def resume {α : Type} (result : Except Stop α) : Exec α :=
  match result with
  | .ok a => return a
  | .error stop => throw stop

/-! ### Descriptors -/

/-- What a descriptor leads to. -/
def opened? (descriptor : Nat) : Exec (Option Nat) := return (← own).descriptors.lookup descriptor

/-- Descriptors with one that leads somewhere else, or nowhere. -/
def redirectedTo (descriptors : List (Nat × Nat)) (descriptor : Nat) (opened : Option Nat) :
    List (Nat × Nat) :=
  let others := descriptors.filter fun entry => entry.1 != descriptor
  match opened with
  | some i => (descriptor, i) :: others
  | none => others

/-- A descriptor leads to something, or nowhere. -/
def setOpened (descriptor : Nat) (opened : Option Nat) : Exec Unit :=
  change fun o => { o with descriptors := redirectedTo o.descriptors descriptor opened }

/-! ### Signals -/

/-- A caught signal waits until it is acted on. -/
def await (signal : Nat) : Exec Unit :=
  change fun o =>
    { o with pending := if o.pending.contains signal then o.pending else signal :: o.pending }

/-- **A signal reaches the shell.** -/
def receive (signal : Nat) : Exec Unit := do
  let o ← own
  if signal = Signal.sure then throw (.killed signal)
  match o.traps.lookup signal with
  | some action => if !action.isEmpty then await signal
  | none => if Signal.kills signal && !o.ignored.contains signal then throw (.killed signal)

/-- The signals that were sent to the shell meanwhile reach it. -/
def receiveMail : Exec Unit := do
  let m ← get
  let (mine, others) := m.mail.partition fun (process, _) => process == m.own.number
  set { m with mail := others }
  for (_, signal) in mine.reverse do receive signal

/-! ### Writing -/

/-- A text is written to something opened; the result tells whether that was possible. -/
def writeTo (opened : Option Nat) (s : Octets) : Exec Bool := do
  match opened with
  | none => return false
  | some i => do
      match ← withStreams fun streams => streams.write i s with
      | .done => return true
      | .refused => return false
      | .broken => do
          receive Signal.brokenPipe
          return false

/-- A text is written to the complaints. -/
def writeError (s : Octets) : Exec Unit := do
  let _ ← writeTo (← opened? 2) s

/-- A text is printed at the end of the builtin. -/
def print (s : Octets) : Exec Unit := change fun o => { o with buffer := s :: o.buffer }

/-- What is printed so far is written; the result tells whether that was possible. -/
def flush : Exec Bool := do
  let text := (← own).buffer.reverse.flatten
  change fun o => { o with buffer := [] }
  if text.isEmpty then return true
  writeTo (← opened? 1) text

/-! ### Complaints -/

/-- The name of the shell. -/
def shellName : Octets := "sh".toList

/-- What stands before a complaint. -/
def complaintLead (o : Own) : Octets :=
  shellName ++ ": ".toList ++ o.line.repr.toList ++ ": ".toList ++
    match o.runs with
    | some name => name ++ ": ".toList
    | none => []

/-- A complaint about the command that runs. -/
def complain (s : Octets) : Exec Unit := do writeError (complaintLead (← own) ++ s ++ ['\n'])

/-- A complaint after which the script ends, unless it came from a builtin that is not special. -/
def fail {α : Type} (s : Octets) : Exec α := do
  setStatus 2
  complain s
  let _ ← flush
  throw .failed

/-- The complaint about a text that is no number. -/
def refuseNumber {α : Type} (s : Octets) : Exec α := fail ("Illegal number: ".toList ++ s)

/-- The count that a word is. -/
def number (word : Octets) : Exec Nat := do
  match Numeral.small? word with
  | some n => return n
  | none => refuseNumber word

end Exec

end CommandBot.Shell
