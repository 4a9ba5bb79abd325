/-
**Loops, functions, scripts and signals.**

* `CommandBot.Shell.Builtin.leave`, `CommandBot.Shell.Builtin.again`,
  `CommandBot.Shell.Builtin.giveBack`, `CommandBot.Shell.Builtin.exit` — the ways out;
* `CommandBot.Shell.Builtin.evaluate`, `CommandBot.Shell.Builtin.source` — **texts and files of
  commands run**;
* `CommandBot.Shell.Builtin.trap`, `CommandBot.Shell.Builtin.kill` — signals are caught and sent;
* `CommandBot.Shell.Builtin.wait`, `CommandBot.Shell.Builtin.jobs` — processes that the shell did not
  wait for.
-/

import CommandBot.Shell.Builtin.Basic

set_option relaxedAutoImplicit false
set_option autoImplicit false

namespace CommandBot.Shell.Builtin

open Exec

/-! ### Ways out -/

/-- Loops end or begin anew; no more than there are. -/
def skipLoops (skip : Nat → Skip) : Action := fun words => do
  let n ← match words with
    | [] => pure 1
    | word :: _ => do
        let n ← number word
        if n = 0 then refuseNumber word
        pure n
  let n := min n (← own).loops
  if 0 < n then change fun o => { o with skip := some (skip n) }
  return 0

/-- **Loops end.** -/
def leave : Action := skipLoops .leave

/-- **A loop begins anew.** -/
def again : Action := skipLoops .again

/-- **The function ends**, or the file of commands. -/
def giveBack : Action := fun words => do
  match words with
  | [] => do
      change fun o => { o with skip := some (.back false) }
      status
  | word :: _ => do
      let n ← number word
      change fun o => { o with skip := some (.back true) }
      return n

/-- **The shell exits.** -/
def exit : Action := fun words => do
  if let some word := words.head? then
    let n ← number word
    change fun o => { o with keptStatus := some n }
  throw .exits

/-! ### Texts that run -/

/-- **The arguments run as a text.** -/
def evaluate (run : Runner) (look : Outlook) : Action := fun words =>
  if words.isEmpty then return 0
  else Process.runText run look.goingOn false ([' '].intercalate words)

/-- The directories in which commands are looked for. -/
def searchPath : Exec (List Octets) := do
  match ← Parameter.named? "PATH" with
  | some path => return path.splitOn ':'
  | none => return []

/-- A path to a name in a directory; the shell works in the one without a name. -/
def pathIn (directory name : Octets) : Octets :=
  if directory.isEmpty then name else directory ++ '/' :: name

/-- A file, and neither a directory nor a device. -/
def isFile (files : FileTree) (path : Octets) : Bool :=
  match (files.find true path).toOption.bind files.entry? with
  | some (.file _) => true
  | some .program => true
  | _ => false

/-- The path of a file of commands. -/
def scriptPath (name : Octets) : Exec Octets := do
  if name.contains '/' then return name
  let files ← files
  match ((← searchPath).map fun directory => pathIn directory name).find? (isFile files) with
  | some path => return path
  | none => fail (name ++ ": not found".toList)

/-- **A file of commands runs.**  A command that gives back ends it. -/
def source (run : Runner) : Action := fun words => do
  match ← plainArguments words with
  | [] => return 0
  | name :: _ => do
      let path ← scriptPath name
      let i ← Redirect.openPath path .read
      let text ← withStreams fun streams => streams.readAll i
      change fun o => { o with runs := some path }
      let last ← Process.runText run .none true (text.filter fun c => c != '\x00')
      if (← own).skip matches some (.back _) then change fun o => { o with skip := none }
      return last

/-! ### Traps -/

/-- What is done on a signal is set, or set back. -/
def setTrap (action? : Option Octets) (signal : Nat) : Exec Unit :=
  change fun o =>
    let others := o.traps.filter fun entry => entry.1 != signal
    { o with traps := match action? with
        | some action => (signal, action) :: others
        | none => others }

/-- What is done on some signals is set, or set back. -/
def setTraps (action? : Option Octets) : List Octets → Exec Nat
  | [] => return 0
  | word :: rest => do
      match Signal.read? 0 word with
      | none => do
          writeError ("trap: ".toList ++ word ++ ": bad trap\n".toList)
          return 1
      | some signal => do
          setTrap action? signal
          setTraps action? rest

/-- What is done on signals is shown. -/
def showTraps (traps : List (Nat × Octets)) : Octets :=
  (List.range (Signal.greatest + 1)).flatMap fun signal =>
    match traps.lookup signal with
    | some action =>
        "trap -- ".toList ++ Parameter.quote action ++ ' ' :: (Signal.name signal).toList ++ ['\n']
    | none => []

/-- A word is the number of a signal. -/
def isSignalNumber (word : Octets) : Bool :=
  (Numeral.digits? word).isSome && (Signal.read? 0 word).isSome

/-- **What is done on signals is set, or shown.** -/
def trap : Action := fun words => do
  match ← plainArguments words with
  | [] => do
      print (showTraps (← own).traps)
      return 0
  | [word] => setTraps none [word]
  | action :: signals =>
      if isSignalNumber action then setTraps none (action :: signals)
      else setTraps (if action = ['-'] then none else some action) signals

/-! ### Jobs -/

/-- The process that a word names after a sign, if there is one. -/
def findJob (word : Octets) : Exec Job := do
  let jobs := (← own).jobs
  let found? := match word with
    | ['%'] => jobs[0]?
    | ['%', '%'] => jobs[0]?
    | ['%', '+'] => jobs[0]?
    | ['%', '-'] => jobs[1]?
    | '%' :: digits => (Numeral.digits? digits).bind fun n => jobs.find? fun j => j.slot == n
    | _ => none
  match found?, word with
  | some job, _ => return job
  | none, ['%', '-'] => fail "No previous job".toList
  | none, _ =>
      if [['%'], ['%', '%'], ['%', '+']].contains word then fail "No current job".toList
      else fail ("No such job: ".toList ++ word)

/-- A process is waited for. -/
def awaitJob (job : Job) : Exec Nat := do
  if !job.isWaited then Process.announce job.ending
  change fun o => { o with
    jobs := o.jobs.map fun j => if j.slot == job.slot then { j with isWaited := true } else j }
  return job.ending.status

/-- Some processes are waited for; the status is that of the last one that is there. -/
def awaitAll : Nat → List Octets → Exec Nat
  | last, [] => return last
  | last, word :: rest => do
      if word.head? = some '%' then awaitAll (← awaitJob (← findJob word)) rest
      else
        let n ← number word
        match (← own).jobs.find? fun j => j.process == n with
        | some job => awaitAll (← awaitJob job) rest
        | none => awaitAll last rest

/-- **Processes are waited for.** -/
def wait : Action := fun words => do
  match ← plainArguments words with
  | [] => do
      for job in (← own).jobs do
        let _ ← if job.ending = .running then throw .endless else pure ()
      change fun o => { o with jobs := o.jobs.map fun j => { j with isWaited := true } }
      return 0
  | words => awaitAll 127 words

/-- How it stands with a process. -/
def stateText : Ending → String
  | .exited 0 => "Done"
  | .exited n => "Done(" ++ n.repr ++ ")"
  | .killed signal => Signal.meaning signal
  | .running => "Running"

/-- A process is shown, and is forgotten if it has ended. -/
def showJob (chosen : List Choice) (job : Job) : Exec Unit := do
  let process := job.process.repr
  if chooses chosen 'p' then print (process ++ "\n").toList
  else
    let jobs := (← own).jobs
    let mark := if (jobs[0]?.map Job.slot) == some job.slot then "+"
      else if (jobs[1]?.map Job.slot) == some job.slot then "-" else " "
    let number := if chooses chosen 'l' then process ++ " " else ""
    let line := "[" ++ job.slot.repr ++ "] " ++ mark ++ " " ++ number ++ stateText job.ending
    print ((Switches.fill 33 line).toList ++ ['\n'])
    if job.ending ≠ .running then
      change fun o => { o with jobs := o.jobs.filter fun j => j.slot != job.slot }

/-- **The processes that the shell did not wait for are shown.** -/
def jobs : Action := fun words => do
  let (chosen, words) ← options "lp" words
  if words.isEmpty then
    for job in (← own).jobs do showJob chosen job
  else
    for word in words do showJob chosen (← findJob word)
  return 0

/-- A process is continued; none can be. -/
def continueJob : Action := fun words => do
  let words ← plainArguments words
  let _ ← findJob (words.headD ['%'])
  fail ("job ".toList ++ words.headD "(null)".toList ++ " not created under job control".toList)

/-! ### Signals -/

/-- How `kill` is used. -/
def killUsage : Octets :=
  "Usage: kill [-s sigspec | -signum | -sigspec] [pid | job]... or\nkill -l [exitstatus]".toList

/-- A signal is sent to a process that the shell did not wait for. -/
def sendToJob (signal : Nat) (job : Job) : Exec Unit := do
  if job.ending = .running ∧ Signal.kills signal then
    change fun o => { o with
      jobs := o.jobs.map fun j => if j.slot == job.slot then { j with ending := .killed signal } else j }

/-- A signal is sent to a process; the result tells whether there is one. -/
def send (signal process : Nat) : Exec Bool := do
  let m ← get
  let post (process : Nat) : Exec Unit := modify fun m => { m with mail := (process, signal) :: m.mail }
  if process = 0 then
    for outer in m.outer do post outer
    receive signal
    return true
  else if process = m.own.number then
    receive signal
    return true
  else if m.outer.contains process then
    post process
    return true
  else
    match m.own.jobs.find? fun j => j.process == process && !j.isWaited with
    | some job => do
        sendToJob signal job
        return true
    | none => return false

/-- The process that a word names; a group of processes is never there. -/
def targetProcess (word : Octets) : Exec (Option Nat) := do
  match word with
  | '%' :: _ => do
      let _ ← findJob word
      return none
  | '-' :: digits => do
      let _ ← number digits
      return none
  | word => return some (← number word)

/-- A signal is sent to some processes; the status tells whether all of them are there. -/
def sendAll (signal : Nat) : Nat → List Octets → Exec Nat
  | last, [] => return last
  | last, word :: rest => do
      let isThere ← match ← targetProcess word with
        | some process => send signal process
        | none => pure false
      if !isThere then complain "No such process\n".toList
      sendAll signal (if isThere then last else 1) rest

/-- The names of signals are printed: all of them, or the one that a status tells of. -/
def listSignals : List Octets → Exec Nat
  | [] => do
      print ['0', '\n']
      for signal in List.range Signal.greatest do
        print ((Signal.name (signal + 1)).toList ++ ['\n'])
      return 0
  | word :: _ => do
      let n ← number word
      let signal := if 128 < n then n - 128 else n
      if signal = 0 ∨ Signal.greatest < signal then
        fail ("invalid signal number or exit status: ".toList ++ word)
      print ((Signal.name signal).toList ++ ['\n'])
      return 0

/-- The signal that the letters chosen name. -/
def chosenSignal : List Choice → Exec (Option Nat)
  | [] => return none
  | ('s', word) :: rest => do
      match Signal.read? 1 word with
      | none => fail ("invalid signal number or name: ".toList ++ word)
      | some signal => return some ((← chosenSignal rest).getD signal)
  | _ :: rest => chosenSignal rest

/-- A signal is sent to targets, of which there must be some. -/
def killAll (signal : Nat) (targets : List Octets) : Exec Nat :=
  if targets.isEmpty then fail killUsage else sendAll signal 0 targets

/-- **A signal is sent**, or the names of signals are printed. -/
def kill : Action := fun words => do
  match words with
  | [] => fail killUsage
  | ('-' :: word) :: targets =>
      match Signal.read? 1 word with
      | some signal => killAll signal targets
      | none => do
          let (chosen, targets) ← options "ls:" words
          let signal? ← chosenSignal chosen
          if chooses chosen 'l' then
            if signal?.isSome && !targets.isEmpty then fail killUsage else listSignals targets
          else killAll (signal?.getD Signal.usual) targets
  | targets => killAll Signal.usual targets

/-! ### Times -/

/-- The times that the shell and its processes took; they are too short to count. -/
def times : Action := fun _ => do
  print "0m0.000000s 0m0.000000s\n0m0.000000s 0m0.000000s\n".toList
  return 0

end CommandBot.Shell.Builtin
