/-
**Redirections.**

The redirections of a command are expanded first and then done one after the other.  What the
descriptors led to before is kept, so that it can be restored after the command.

* `CommandBot.Shell.Redirect.Target` — where a descriptor shall lead;
* `CommandBot.Shell.Redirect.begin` — redirections are done, and what was before is kept;
* `CommandBot.Shell.Redirect.finish`, `CommandBot.Shell.Redirect.unwind` — what was before is
  restored;
* `CommandBot.Shell.Redirect.apply` — **redirections are done.**
-/

import CommandBot.Shell.Expand

set_option relaxedAutoImplicit false
set_option autoImplicit false

namespace CommandBot.Shell.Redirect

open Exec

/-! ### Targets -/

/-- Where a descriptor shall lead. -/
inductive Target where
  | path (path : Octets) (mode : Mode)
  /-- Where another descriptor leads. -/
  | shared (descriptor : Nat)
  | nowhere
  /-- To a text within the script. -/
  | document (number : Nat)

/-- The target of a redirection that shares a descriptor. -/
def sharedTarget (fields : List Octets) : Exec Target := do
  match fields.head? with
  | some ['-'] => return .nowhere
  | some [c] => if c.isDigit then return .shared (c.toNat - '0'.toNat) else refuse
  | _ => refuse
where
  /-- What is given is no descriptor; the complaint names the line that was read last. -/
  refuse : Exec Target := do
    change fun o => { o with line := o.lineRead }
    fail "Syntax error: Bad fd number".toList

/-- The target of a redirection. -/
def target (capture : Expand.Capture) : Redirection → Exec (Nat × Target)
  | .mk descriptor mode word =>
      match mode with
      | .share => do return (descriptor, ← sharedTarget (← Expand.fields capture word))
      | .document number => return (descriptor, .document number)
      | mode => do return (descriptor, .path (← Expand.text capture word) mode)

/-- The targets of some redirections. -/
def targets (capture : Expand.Capture) : List Redirection → Exec (List (Nat × Target))
  | [] => return []
  | first :: rest => do
      let first ← target capture first
      return first :: (← targets capture rest)

/-! ### What was before -/

/-- What a descriptor led to is kept, unless it is kept already. -/
def keep (descriptor : Nat) : Exec Unit :=
  change fun o =>
    { o with redirected := match o.redirected with
        | frame :: outer =>
            if frame.any fun kept => kept.1 == descriptor then frame :: outer
            else ((descriptor, o.descriptors.lookup descriptor) :: frame) :: outer
        | [] => [] }

/-- A descriptor is given up and leads nowhere, unless it is kept already or nothing is kept. -/
def giveUp (descriptor : Nat) : Exec Unit := do
  match (← own).redirected with
  | frame :: _ =>
      if !frame.any fun kept => kept.1 == descriptor then
        keep descriptor
        setOpened descriptor none
  | [] => return ()

/-! ### Opening -/

/-- What is said of a path that cannot be opened. -/
def faultText (creates : Bool) : FileTree.Fault → String
  | .missing => if creates then "Directory nonexistent" else "No such file"
  | .notDirectory => if creates then "Directory nonexistent" else "No such file"
  | fault => fault.message

/-- A path is opened. -/
def openPath (path : Octets) (intent : Intent) : Exec Nat := do
  let o ← own
  match (← get).streams.openPath (fun n => o.descriptors.lookup n) path intent with
  | .ok (i, streams) => do
      modify fun m => { m with streams }
      return i
  | .error fault =>
      fail ("cannot ".toList ++ (if intent.creates then "create " else "open ").toList ++ path ++
        ": ".toList ++ (faultText intent.creates fault).toList)

/-- What a path is opened for where files are protected. -/
def protectedIntent (path : Octets) : Exec Intent := do
  let files ← files
  match files.find true path with
  | .error _ => return .writeNew
  | .ok place =>
      match files.entry? place with
      | some (.device _) => return .writeOver
      | _ =>
          if files.isDirectory place then return .writeOver
          fail ("cannot create ".toList ++ path ++ ": File exists".toList)

/-- What a path is opened for. -/
def intent (path : Octets) : Mode → Exec Intent
  | .read => return .read
  | .update => return .update
  | .append => return .append
  | .write => do if ← isOn .noclobber then protectedIntent path else return .write
  | _ => return .write

/-- What the descriptor of a redirection shall lead to; nothing is done if it leads there already.  A
descriptor that shall share another one is given up before that one is looked at, so that a complaint
about the other may get lost. -/
def opened (capture : Expand.Capture) (descriptor : Nat) : Target → Exec (Option (Option Nat))
  | .path path mode => do return some (some (← openPath path (← intent path mode)))
  | .nowhere => return some none
  | .shared source => do
      if source = descriptor then return none
      match ← opened? source with
      | some i => return some (some i)
      | none => do
          giveUp descriptor
          fail (source.repr.toList ++ ": Bad file descriptor".toList)
  | .document number => do
      let word := ((← get).documents.lookup number).getD []
      let text ← Expand.document capture word
      return some (some (← withStreams fun streams => streams.addSource text))

/-! ### Redirections -/

/-- Some redirections are done, of which those with a frame around them can be undone. -/
def doAll (capture : Expand.Capture) : List (Nat × Target) → Exec Unit
  | [] => return ()
  | (descriptor, target) :: rest => do
      if let some opened ← opened capture descriptor target then
        keep descriptor
        setOpened descriptor opened
      doAll capture rest

/-- The innermost redirections end.  What was before is restored unless they shall stay. -/
def finish (stays : Bool) : Exec Unit :=
  change fun o =>
    match o.redirected with
    | frame :: outer =>
        let before := frame.foldl (fun d (descriptor, i) => redirectedTo d descriptor i) o.descriptors
        { o with redirected := outer, descriptors := if stays then o.descriptors else before }
    | [] => o

/-- Redirections end until so many are left. -/
def unwind (depth : Nat) : Exec Unit := do
  for _ in List.range ((← own).redirected.length - depth) do finish false

/-- **Redirections are done**, and what was before is kept; the result tells whether that was
possible. -/
def begin (capture : Expand.Capture) (targets : List (Nat × Target)) : Exec Bool := do
  if targets.isEmpty then return true
  change fun o => { o with redirected := [] :: o.redirected }
  match ← attempt (doAll capture targets) with
  | .ok () => return true
  | .error .failed => return false
  | .error stop => throw stop

/-- **Redirections are done** for good. -/
def apply (capture : Expand.Capture) (targets : List (Nat × Target)) : Exec Unit := do
  let frames := (← own).redirected
  change fun o => { o with redirected := [] }
  doAll capture targets
  change fun o => { o with redirected := frames }

/-- Where complaints went before so many of the redirections. -/
def errorsBefore (frames : Nat) : Exec (Option Nat) := do
  let o ← own
  match (o.redirected.take frames).flatten.lookup 2 with
  | some (some i) => return some i
  | _ => opened? 2

end CommandBot.Shell.Redirect
