/-
**Running scripts.**

Commands run one after the other, with their words expanded and their redirections done.  A command
may run commands within it, or a text; how deep this goes and how often a loop turns is bounded by a
number of steps that no sensible script reaches.

* `CommandBot.Shell.Run.Plan` — what a simple command is going to run;
* `CommandBot.Shell.Run.simple` — **a simple command**;
* `CommandBot.Shell.Run.node` — **a command**, of which the smaller ones are run by a runner;
* `CommandBot.Shell.Run.list` — **a list of commands**.
-/

import CommandBot.Shell.Command

set_option relaxedAutoImplicit false
set_option autoImplicit false

namespace CommandBot.Shell.Run

open Exec

/-- The output of scripts within words. -/
def capture (run : Runner) : Expand.Capture := Process.capture run

/-! ### Words of a command -/

/-- The fields of some words, and the words that are still to be expanded. -/
structure Fields where
  done : List Octets
  rest : List Word

/-- Words are expanded until there are more than so many fields. -/
def reach (run : Runner) (count : Nat) : List Word → List Octets → Exec Fields
  | [], done => return ⟨done, []⟩
  | word :: rest, done => do
      if count < done.length then return ⟨done, word :: rest⟩
      reach run count rest (done ++ (← Expand.fields (capture run) word))

/-- The letters of a word that says how a command is looked for; other letters ask for something
else. -/
def isSearchChoice : Octets → Bool
  | '-' :: c :: rest => (c :: rest).all fun c => c == 'p'
  | _ => false

/-- The number of the field that names a command, from a field on that may choose how it is looked for;
in so many steps at most.  There may be none, or something else may be asked for. -/
def named (run : Runner) : Nat → Nat → Fields → Exec (Option Nat × Fields)
  | 0, _, f => return (none, f)
  | fuel + 1, n, f => do
      let f ← reach run n f.rest f.done
      match f.done[n]? with
      | none => return (none, f)
      | some ['-', '-'] => do
          let f ← reach run (n + 1) f.rest f.done
          return (if n + 1 < f.done.length then some (n + 1) else none, f)
      | some word =>
          if isSearchChoice word then named run fuel (n + 1) f
          else if word.head? = some '-' ∧ word ≠ ['-'] then return (none, f)
          else return (some n, f)

/-- The other words of a command; those that assign are not parted if that is wished. -/
def others (run : Runner) (assigns : Bool) : List Word → Exec (List Octets)
  | [] => return []
  | word :: rest => do
      let first ← if assigns && word.assignment?.isSome then
          pure [← Expand.value (capture run) word]
        else Expand.fields (capture run) word
      return first ++ (← others run assigns rest)

/-! ### Plans -/

/-- What a simple command is going to run. -/
structure Plan where
  /-- All fields, as they are shown. -/
  fields : List Octets
  /-- The fields from the name of the command on. -/
  command : List Octets
  /-- What the name was found to be, as far as it was looked for. -/
  found : Command.Found
  /-- The builtin that was named first is special; without a builtin nothing is. -/
  isSpecial : Bool
  /-- Assignments belong to the command alone. -/
  isLocal : Bool
  /-- The shell is replaced, so that redirections stay. -/
  isExec : Bool
  /-- Functions do not count. -/
  withoutFunctions : Bool

/-- The plan of a command without a name. -/
def Plan.nameless : Plan := ⟨[], [], .missing .notFound, false, false, false, false⟩

/-- The plan of the command whose name is a field, in so many steps at most.  A name after `command`
is looked for again, without the functions. -/
def plan (run : Runner) (isSpecial? : Option Bool) (n : Nat) : Nat → Fields → Exec Plan
  | 0, _ => throw .endless
  | fuel + 1, f => do
      let name := (f.done[n]?).getD []
      let found ← Command.find isSpecial?.isNone name
      match found with
      | .builtin kind => do
          let isSpecial := isSpecial?.getD kind.isSpecial
          let next? ← if name = "command".toList then named run 100000 (n + 1) f else pure (none, f)
          match next? with
          | (some m, f) => plan run (some isSpecial) m fuel f
          | (none, f) => finish isSpecial (!isSpecial) kind.assigns found f
      | found => finish false true false found f
where
  /-- The plan with all words expanded. -/
  finish (isSpecial isLocal assigns : Bool) (found : Command.Found) (f : Fields) : Exec Plan := do
    let fields := f.done ++ (← others run assigns f.rest)
    return {
      fields, command := fields.drop n, found, isSpecial, isLocal
      isExec := (fields[n]?).getD [] == "exec".toList
      withoutFunctions := isSpecial?.isSome }

/-! ### Builtins and functions -/

/-- **A builtin runs.**  What it prints is written at its end. -/
def builtin (run : Runner) (look : Outlook) (isSpecial : Bool) (command : List Octets) :
    Exec Unit := do
  let name := command.headD []
  let before := (← own).runs
  change fun o => { o with runs := some name }
  let result ← attempt do
    let status ← Command.action run look (String.ofList name) (command.drop 1)
    let isWritten ← flush
    if !isWritten then complain (name ++ ": I/O error".toList)
    setStatus (if isWritten then status else status ||| 1)
  change fun o => { o with runs := before, buffer := [] }
  match result with
  | .error .failed => if isSpecial then throw .failed
  | result => resume result

/-- The number of functions that may run within each other. -/
def callLimit : Nat := 1000

/-- **A function runs** on some arguments. -/
def call (run : Runner) (look : Outlook) (body : Node) (arguments : List Octets) : Exec Unit := do
  let before ← own
  if callLimit ≤ before.calls then fail "Maximum function recursion depth (1000) reached".toList
  change fun o => { o with
    arguments, optionIndex := some 1, optionOffset := none, loops := 0, calls := o.calls + 1 }
  let result ← attempt (run look.goingOn [body])
  change fun o => { o with
    arguments := before.arguments
    optionIndex := before.optionIndex
    optionOffset := before.optionOffset
    loops := before.loops
    calls := before.calls
    skip := match o.skip with
      | some (.back _) => none
      | skip => skip }
  resume result

/-- Something is caught, so that the shell must not be replaced. -/
def catchesSignals : Exec Bool := return (← own).traps.any fun entry => !entry.2.isEmpty

/-- A file is executed, in a process of its own unless nothing is left to do. -/
def external (run : Runner) (look : Outlook) (name : Octets) : Exec Unit := do
  if look.isLast && !(← catchesSignals) then Command.execute name
  else setStatus (← Process.waitedFor run (Command.execute name))

/-! ### Simple commands -/

/-- What stands before the commands that are shown.  If the end of the script waits to be read again, it
is what the first script within the text begins with. -/
def showLead (run : Runner) : Exec Octets := do
  let text := (← Parameter.named? "PS4").getD []
  let ahead := if (← own).isEndAhead then some .ended else none
  let result ← attempt do
    match Script.quotedWord { Source.ofText text with ahead } with
    | .ok (word, rest) => do
        change fun o => { o with isEndAhead := rest.isEndAhead }
        Expand.document (capture run) word
    | .error m => do
        change fun o => { o with line := m.line, isEndAhead := false }
        fail ("Syntax error: ".toList ++ m.reason.toList)
  match result with
  | .error .failed => return text
  | result => resume result

/-- A command is shown, if that is wished, where complaints went before so many redirections. -/
def showCommand (run : Runner) (frames : Nat) (assignments fields : List Octets) : Exec Unit := do
  let o ← own
  if o.switches.isOn .xtrace && !o.isShowing then
    change fun o => { o with isShowing := true }
    let lead ← showLead run
    change fun o => { o with isShowing := false }
    let _ ← writeTo (← Redirect.errorsBefore frames)
      (lead ++ [' '].intercalate (assignments ++ fields) ++ ['\n'])

/-- The assignments of a command are made; the result are their texts. -/
def assignAll (run : Runner) (p : Plan) : List Word → Exec (List Octets)
  | [] => return []
  | word :: rest => do
      let text ← Expand.value (capture run) word
      if p.isLocal then Parameter.localize text .exported
      else
        let (name, value?) := Parameter.split text
        Parameter.put name value? ⟨p.isExec && 1 < p.command.length, false, false⟩
      return text :: (← assignAll run p rest)

/-- What a command names is looked for again, and runs.  The result tells whether it was found. -/
def perform (run : Runner) (look : Outlook) (p : Plan) : Exec Unit := do
  match p.command with
  | [] => setStatus (← own).outputStatus
  | name :: arguments => do
      let found ← match p.found with
        | .builtin kind => pure (Command.Found.builtin kind)
        | _ => Command.find (!p.withoutFunctions) name
      match found with
      | .builtin _ => builtin run look p.isSpecial (name :: arguments)
      | .function body => call run look body arguments
      | .program _ => external run look name
      | .path => external run look name
      | .missing f => do
          complain (name ++ ": ".toList ++ f.reason.toList)
          setStatus 127

/-- **A simple command.** -/
def simple (run : Runner) (look : Outlook) (line : Nat) (assignments words : List Word)
    (redirections : List Redirection) : Exec Unit := do
  change fun o => { o with line, outputStatus := 0 }
  let f ← reach run 0 words []
  let p ← if f.done.isEmpty then pure Plan.nameless else plan run none 0 100000 f
  let locals := (← own).locals.length
  if p.isLocal then change fun o => { o with locals := [] :: o.locals }
  let targets ← Redirect.targets (capture run) redirections
  let frames := (← own).redirected.length
  if ← Redirect.begin (capture run) targets then
    let texts ← assignAll run p assignments
    showCommand run (if targets.isEmpty then 0 else 1) texts p.fields
    perform run look p
  else
    setStatus 2
    if p.isSpecial then throw .failed
  if !targets.isEmpty then Redirect.finish p.isExec
  Redirect.unwind frames
  Parameter.restore locals

/-! ### Loops -/

/-- The number of steps that a script may take, within each other or in one loop. -/
def depth : Nat := 200000

/-- A round of a loop is over; the result tells what is skipped after it. -/
def roundOver : Exec (Option Skip) := do
  let skip := (← own).skip
  let (told, left) : Option Skip × Option Skip := match skip with
    | some (.leave n) => (some (.leave n), if n ≤ 1 then none else some (.leave (n - 1)))
    | some (.again n) =>
        if n ≤ 1 then (some (.again n), none) else (some (.leave n), some (.again (n - 1)))
    | skip => (skip, skip)
  change fun o => { o with skip := left }
  return told

/-- A loop goes on after a round. -/
def goesOn : Option Skip → Bool
  | none => true
  | some (.again _) => true
  | _ => false

/-- A step in a loop. -/
def inLoop (body : Exec Unit) : Exec Unit := do
  change fun o => { o with loops := o.loops + 1 }
  body
  change fun o => { o with loops := o.loops - 1 }

/-- The rounds of a loop for each of some words; the status is that of the last one. -/
def each (run : Runner) (look : Outlook) (parameter : Octets) (body : List Node) :
    Nat → List Octets → Exec Unit
  | last, [] => setStatus last
  | _, word :: rest => do
      Parameter.set parameter word
      run look.goingOn body
      let last ← status
      if goesOn (← roundOver) then each run look parameter body last rest else setStatus last

/-- The rounds of a loop as long as a condition holds or fails, so many at most. -/
def rounds (run : Runner) (look : Outlook) (onSuccess : Bool) (condition body : List Node) :
    Nat → Nat → Exec Unit
  | 0, _ => throw .endless
  | fuel + 1, last => do
      run .tested condition
      let held ← status
      match ← roundOver with
      | some (.again _) => rounds run look onSuccess condition body fuel last
      | some (.back hasStatus) => setStatus (if hasStatus then held else last)
      | some (.leave _) => setStatus last
      | none =>
          if (held == 0) == onSuccess then
            run look.goingOn body
            let last ← status
            if goesOn (← roundOver) then rounds run look onSuccess condition body fuel last
            else setStatus last
          else setStatus last

/-! ### Pipelines and cases -/

/-- The number of octets that a stage of a pipeline may write before anyone reads. -/
def pipeRoom : Nat := 131072

/-- The stages of a pipeline, the first of which reads what is opened, if something is; the result are
the last process and how it ended. -/
def stages (run : Runner) (look : Outlook) (waits : Bool) :
    Option Nat → List Node → Exec (Nat × Ending)
  | _, [] => return (0, .exited 0)
  | input?, stage :: later => do
      let (sink, opened) ← withStreams fun streams =>
        let (sink, opened, streams) := streams.addSink (some pipeRoom)
        ((sink, opened), streams)
      let ended ← Process.forked run do
        if !waits then
          change fun o => { o with ignored := [2, 3] ++ o.ignored }
          if input?.isNone then Process.readNothing
        if input?.isSome then setOpened 0 input?
        if !later.isEmpty then setOpened 1 (some opened)
        run ⟨look.isTested, true⟩ [stage]
      if waits then Process.announce ended.2
      if later.isEmpty then return ended
      else
        let text := (← get).streams.text sink
        let input ← withStreams fun streams => streams.addSource text
        stages run look waits (some input) later

/-- **A pipeline**, which the shell waits for or not. -/
def pipeline (run : Runner) (look : Outlook) (waits : Bool) (nodes : List Node) : Exec Unit := do
  let slot ← Process.takeSlot
  let (process, ending) ← stages run look waits none nodes
  if waits then setStatus ending.status
  else
    change fun o => { o with
      jobs := ⟨slot, process, ending, false⟩ :: o.jobs, lastProcess := some process, status := 0 }

/-- Whether a word fits one of some patterns. -/
def fitsAny (run : Runner) (word : Octets) : List Word → Exec Bool
  | [] => return false
  | first :: rest => do
      if Pattern.fits (← Expand.pattern (capture run) first) word then return true
      fitsAny run word rest

/-- The first arm that a word fits. -/
def arms (run : Runner) (look : Outlook) (word : Octets) :
    List (List Word × List Node) → Exec Unit
  | [] => setStatus 0
  | (patterns, body) :: rest => do
      if ← fitsAny run word patterns then
        if body.isEmpty || (← Process.isSkipping) then setStatus 0 else run look body
      else arms run look word rest

/-! ### Commands -/

/-- A failure that nobody looks at ends the shell if that is wished. -/
def checkFailure (look : Outlook) : Exec Unit := do
  let o ← own
  if o.switches.isOn .errexit && !look.isTested && o.status != 0 then throw .ends

/-- A script in a process of its own, or in place of the shell if nothing is left to do. -/
def subshell (run : Runner) (look : Outlook) (targets : List (Nat × Redirect.Target))
    (body : List Node) : Exec Unit := do
  let inside : Exec Unit := do
    change fun o => { o with lineRead := 1 }
    Redirect.apply (capture run) targets
    run ⟨look.isTested, true⟩ body
  if look.isLast && !(← catchesSignals) then inside
  else setStatus (← Process.waitedFor run inside)

/-- A command with redirections. -/
def redirected (run : Runner) (look : Outlook) (targets : List (Nat × Redirect.Target))
    (body : Node) : Exec Unit := do
  if ← Redirect.begin (capture run) targets then
    run look.goingOn [body]
    if !targets.isEmpty then Redirect.finish false
  else
    setStatus 2
    if !targets.isEmpty then Redirect.finish false
    checkFailure look

/-- What a command does, of which the smaller ones are run by a runner. -/
def effect (run : Runner) (look : Outlook) : Node → Exec Unit
  | .simple line assignments words redirections => do
      simple run look line assignments words redirections
      checkFailure look
  | .pipeline stages waits => do
      pipeline run look waits stages
      checkFailure look
  | .negation body => do
      run .tested [body]
      if !(← Process.isSkipping) then setStatus (Builtin.yes ((← status) != 0))
  | .both first second => do
      run .tested [first]
      if (← status) = 0 ∧ !(← Process.isSkipping) then run look [second]
  | .either first second => do
      run .tested [first]
      if (← status) ≠ 0 ∧ !(← Process.isSkipping) then run look [second]
  | .background line body redirections => do
      change fun o => { o with line }
      let targets ← Redirect.targets (capture run) redirections
      Process.unwaitedFor run do
        Redirect.apply (capture run) targets
        run ⟨false, true⟩ [body]
      setStatus 0
  | .subshell line body redirections => do
      change fun o => { o with line }
      let targets ← Redirect.targets (capture run) redirections
      subshell run look targets body
      checkFailure look
  | .group body => run look body
  | .redirected line body redirections => do
      change fun o => { o with line }
      let targets ← Redirect.targets (capture run) redirections
      redirected run look targets body
  | .choice condition success failure => do
      run .tested condition
      let held := (← status) == 0
      if !(← Process.isSkipping) then
        if held then run look success
        else if failure.isEmpty then setStatus 0
        else run look failure
  | .loop onSuccess condition body => inLoop (rounds run look onSuccess condition body depth 0)
  | .each line parameter words body => do
      change fun o => { o with line }
      let texts ← Expand.allFields (capture run) words
      inLoop (each run look parameter body 0 texts)
  | .cases line word patterns => do
      change fun o => { o with line }
      arms run look (← Expand.text (capture run) word) patterns
  | .function _ name body => do
      change fun o => { o with
        functions := o.functions.set (String.ofList name) body
        located := o.located.erase (String.ofList name) }
      setStatus 0

/-- **A command**, of which the smaller ones are run by a runner.  What is to be done on signals is done
before and after it. -/
def node (run : Runner) (look : Outlook) (n : Node) : Exec Unit := do
  if !(← isOn .noexec) then
    Process.actOnSignals run
    effect run look n
  Process.actOnSignals run
  if look.isLast then throw .ends

/-- **A list of commands**, in so many steps within each other at most. -/
def list : Nat → Runner
  | 0, _, _ => throw .endless
  | fuel + 1, look, [] => do
      Process.actOnSignals (list fuel)
      if look.isLast then throw .ends
  | fuel + 1, look, [last] => node (list fuel) look last
  | fuel + 1, look, first :: rest => do
      node (list fuel) look.goingOn first
      if ← Process.isSkipping then
        if look.isLast then throw .ends
      else list fuel look rest

end CommandBot.Shell.Run
