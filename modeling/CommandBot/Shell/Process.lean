/-
**Processes.**

A text runs line by line.  A process works on a copy of the state of the shell; what remains of it are
the files and what it wrote.  It runs to its end before the shell goes on, even if the shell does not
wait for it.

* `CommandBot.Shell.Process.runText` — **a text runs**;
* `CommandBot.Shell.Process.actOnSignals` — what is done on the signals that were caught;
* `CommandBot.Shell.Process.conclude` — the end of a shell;
* `CommandBot.Shell.Process.forked` — **a step in a process of its own**;
* `CommandBot.Shell.Process.capture` — the text that a script writes.
-/

import CommandBot.Shell.Redirect

set_option relaxedAutoImplicit false
set_option autoImplicit false

namespace CommandBot.Shell.Process

open Exec

/-! ### Texts that run -/

/-- Commands are skipped. -/
def isSkipping : Exec Bool := return (← own).skip.isSome

/-- The next line of a text, if there is one. -/
def readLine (source : Source) : Exec (Option (List Node × Source)) := do
  match Script.readLine { source with aliases := (← own).aliases } with
  | .error m => do
      change fun o => { o with line := m.line, lineRead := m.line }
      fail ("Syntax error: ".toList ++ m.reason.toList)
  | .ok (none, _) => do
      change fun o => { o with isEndAhead := true }
      return none
  | .ok (some nodes, rest) => do
      modify fun m => { m with documents := rest.documents }
      change fun o => { o with lineRead := rest.line, isEndAhead := rest.isEndAhead }
      return some (nodes, rest)

/-- The octets that are still to be read. -/
def restOf (source : Source) : Octets := (source.passages.map Passage.rest).flatten

/-- What was read of a file of commands is shown, if that is wished. -/
def showRead (before after : Source) : Exec Unit := do
  if ← isOn .verbose then
    let text := restOf before
    writeError (text.take (text.length - (restOf after).length))

/-- The lines of a text run, so many at most; the result is the status of the last command, or a
status that is given. -/
def runLines (run : Runner) (look : Outlook) (isFile : Bool) : Nat → Nat → Source → Exec Nat
  | 0, _, _ => throw .endless
  | fuel + 1, last, source => do
      match ← readLine source with
      | none => return last
      | some (nodes, rest) => do
          if isFile then showRead source rest
          run (if rest.isEndAhead then look else look.goingOn) nodes
          let last ← if nodes.isEmpty then pure last else status
          if ← isSkipping then return last
          runLines run look isFile fuel last rest

/-- **A text runs**, of a file of commands or not; the result is the status of its last command. -/
def runText (run : Runner) (look : Outlook) (isFile : Bool) (text : Octets) : Exec Nat := do
  let before := (← own).lineRead
  let documents := (← get).documents
  let source := { Source.ofText text with documents, count := documents.length }
  let result ← attempt (runLines run look isFile (text.length + 2) 0 source)
  change fun o => { o with lineRead := before }
  resume result

/-! ### Signals -/

/-- What is done on a signal is done, if it was caught.  The status stays, unless it is given back. -/
def actOn (run : Runner) (status signal : Nat) : Exec Unit := do
  let o ← own
  if o.pending.contains signal && o.skip.isNone then
    change fun o => { o with pending := o.pending.filter fun n => n != signal }
    if let some action := o.traps.lookup signal then
      let _ ← runText run .none false action
      if (← own).skip ≠ some (.back true) then setStatus status

/-- **What is to be done on the signals that were caught is done.** -/
def actOnSignals (run : Runner) : Exec Unit := do
  let o ← own
  if !o.pending.isEmpty then
    let status := o.keptStatus.getD o.status
    change fun o => { o with keptStatus := some status }
    for signal in List.range (Signal.greatest + 1) do actOn run status signal
    change fun p => { p with keptStatus := o.keptStatus }

/-! ### The end of a shell -/

/-- A shell is told to exit. -/
def isExit : Except Stop Unit → Bool
  | .error .exits => true
  | _ => false

/-- Nothing is around the command any more.  A status that was kept counts again if the shell was told
to exit, or had nothing left to do. -/
def reset (exits : Bool) : Exec Unit := do
  let o ← own
  if let some status := o.keptStatus then
    if exits || o.skip == some (.back false) then setStatus status
  change fun o => { o with keptStatus := none, skip := none, loops := 0, isShowing := false }
  Redirect.unwind 0

/-- What is to be done at the end is done. -/
def atEnd (run : Runner) (action : Octets) : Exec Unit := do
  change fun o => { o with
    traps := o.traps.filter fun entry => entry.1 != 0
    skip := none }
  let _ ← runText run .none false action
  change fun o => { o with skip := some (.back false) }

/-- Nothing is left to do after a step stopped or not. -/
def settle (result : Except Stop Unit) : Exec Unit := do
  match result with
  | .error (.killed signal) => throw (.killed signal)
  | .error .endless => throw .endless
  | result => reset (isExit result)

/-- **The end of a shell** after a step that stopped or not: what is to be done at the end is done,
and the status is what it was before, unless another is given there. -/
def conclude (run : Runner) (result : Except Stop Unit) : Exec Unit := do
  settle result
  change fun o => { o with keptStatus := some o.status }
  match (← own).traps.lookup 0 with
  | some action => settle (← attempt (atEnd run action))
  | none => settle (.error .exits)
  let _ ← flush

/-- How a process ended. -/
def endingOf (o : Own) : Except Stop Unit → Ending
  | .error (.killed signal) => .killed signal
  | .error .endless => .running
  | _ => .exited (o.status % 256)

/-! ### Processes -/

/-- The part of the state that a new process begins with.  It catches no signals. -/
def childOf (o : Own) (number : Nat) : Own :=
  { o with
    number, redirected := [], pending := [], jobs := [], buffer := [], lineRead := 1
    traps := o.traps.filter fun entry => entry.2.isEmpty }

/-- **A step in a process of its own.** -/
def forked (run : Runner) (body : Exec Unit) : Exec (Nat × Ending) := do
  let m ← get
  let number := m.nextNumber
  let parent := m.own
  let here := m.streams.files.here
  set { m with
    own := childOf parent number, nextNumber := number + 1, outer := parent.number :: m.outer }
  let result ← attempt body
  let ended ← attempt (conclude run result)
  let ending := endingOf (← own) ended
  modify fun m => { m with own := parent, outer := m.outer.drop 1, streams.files.here := here }
  receiveMail
  receive Signal.childEnded
  return (number, ending)

/-- It is said of a process that a signal ended it, unless it is no surprise. -/
def announce : Ending → Exec Unit
  | .killed signal =>
      if signal = 2 ∨ signal = Signal.brokenPipe then return ()
      else writeError ((Signal.meaning signal).toList ++ ['\n'])
  | .running => throw .endless
  | .exited _ => return ()

/-! ### Jobs -/

/-- The first slot for a process that is free, from a slot on; processes that were waited for need
none any more. -/
def freeSlot : List Job → Nat → Nat → Nat × List Job
  | jobs, _, 0 => (jobs.length + 1, jobs)
  | jobs, slot, fuel + 1 =>
      match jobs.find? fun j => j.slot == slot with
      | none => (slot, jobs)
      | some j =>
          if j.isWaited then (slot, jobs.filter fun j => j.slot != slot)
          else freeSlot jobs (slot + 1) fuel

/-- A slot for a process. -/
def takeSlot : Exec Nat := do
  let jobs := (← own).jobs
  let (slot, jobs) := freeSlot jobs 1 (jobs.length + 1)
  change fun o => { o with jobs }
  return slot

/-- A step in a process that the shell waits for; the result is its status. -/
def waitedFor (run : Runner) (body : Exec Unit) : Exec Nat := do
  let _ ← takeSlot
  let (_, ending) ← forked run body
  announce ending
  return ending.status

/-- The descriptors of a process that nobody waits for: it reads nothing. -/
def readNothing : Exec Unit := do
  let i ← withStreams fun streams => streams.addChannel (.device .null) .read
  setOpened 0 (some i)

/-- A step in a process that the shell does not wait for. -/
def unwaitedFor (run : Runner) (body : Exec Unit) : Exec Unit := do
  let slot ← takeSlot
  let (process, ending) ← forked run do
    change fun o => { o with ignored := [2, 3] ++ o.ignored }
    readNothing
    body
  change fun o => { o with
    jobs := ⟨slot, process, ending, false⟩ :: o.jobs, lastProcess := some process }

/-- A text without the ends of lines at its end. -/
def dropLastNewlines (s : Octets) : Octets := (s.reverse.dropWhile fun c => c == '\n').reverse

/-- **The text that a script writes**, without the ends of lines at its end.  Its status is kept
apart. -/
def capture (run : Runner) (script : List Node) : Exec Octets := do
  if script.isEmpty then return []
  let (sink, opened) ← withStreams fun streams =>
    let (sink, opened, streams) := streams.addSink none
    ((sink, opened), streams)
  let status ← waitedFor run do
    setOpened 1 (some opened)
    run ⟨false, true⟩ script
  change fun o => { o with outputStatus := status }
  return dropLastNewlines (((← get).streams.text sink).filter fun c => c != '\x00')

end CommandBot.Shell.Process
