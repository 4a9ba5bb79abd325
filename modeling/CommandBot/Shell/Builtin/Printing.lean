/-
**Printing and reading.**

* `CommandBot.Shell.Builtin.echo` — the arguments are printed;
* `CommandBot.Shell.Builtin.printf` — the arguments are printed to a format;
* `CommandBot.Shell.Builtin.read` — **a line is read into parameters.**
-/

import CommandBot.Shell.Builtin.Basic
import CommandBot.Shell.Format

set_option relaxedAutoImplicit false
set_option autoImplicit false

namespace CommandBot.Shell.Builtin

open Exec

/-! ### Printing -/

/-- The texts of `echo`, and whether the line ends. -/
def echoTexts : List Octets → Octets × Bool
  | [] => ([], true)
  | [a] =>
      let (s, stops) := Escape.expandAll a
      (s, !stops)
  | a :: rest =>
      let (s, stops) := Escape.expandAll a
      if stops then (s, false)
      else
        let (t, ends) := echoTexts rest
        (s ++ ' ' :: t, ends)

/-- **The arguments are printed** with their escapes replaced. -/
def echo : Action
  | ['-', 'n'] :: rest => do
      print (echoTexts rest).1
      return 0
  | arguments => do
      let (s, ends) := echoTexts arguments
      print (if ends then s ++ ['\n'] else s)
      return 0

/-- **The arguments are printed to a format.** -/
def printf : Action := fun words => do
  match ← plainArguments words with
  | [] => fail "usage: printf format [arg ...]".toList
  | format :: arguments => do
      let printed := Format.run format arguments
      for complaint in printed.complaints do complain complaint
      print printed.output
      match printed.failure with
      | some reason => fail reason
      | none => return yes printed.complaints.isEmpty

/-! ### Reading -/

/-- A line that is read: what it is expanded to, where the last region begins, and whether it is
complete. -/
structure ReadLine where
  expansion : Expansion
  start : Nat
  isComplete : Bool

/-- The octets that were read since the last region end it. -/
def ReadLine.close (r : ReadLine) : ReadLine :=
  { r with expansion := r.expansion.mark r.start false, start := r.expansion.size }

/-- The octets of a line, of which some may be guarded by a backslash; the result tells whether the
line goes on in the next one. -/
def ReadLine.addAll (isRaw : Bool) (r : ReadLine) : Octets → ReadLine × Bool
  | [] => (r, false)
  | '\\' :: rest =>
      if isRaw then { r with expansion := r.expansion.add (.plain '\\') }.addAll isRaw rest
      else
        match rest with
        | [] => (r, false)
        | c :: rest =>
            let before := r.close
            if c = '\n' then (before, true)
            else
              let e := before.expansion.add (.guarded c)
              { before with expansion := e, start := e.size }.addAll isRaw rest
  | c :: rest =>
      if c = '\n' then ({ r with isComplete := true }, false)
      else { r with expansion := r.expansion.add (Expand.glyph false c) }.addAll isRaw rest

/-- The next line of the input, without the octets that no text has. -/
def nextLine : Exec Octets := do
  match ← opened? 0 with
  | none => return []
  | some i => return (← withStreams fun streams => streams.readLine i).filter fun c => c != '\x00'

/-- A line that may go on in the next ones, so many at most. -/
def readLines (isRaw : Bool) : Nat → ReadLine → Exec ReadLine
  | 0, _ => throw .endless
  | fuel + 1, r => do
      let line ← nextLine
      let (r, goesOn) := r.addAll isRaw line
      if goesOn then readLines isRaw fuel r else return r

/-- Parameters get texts; those without one are emptied. -/
def share : List Octets → List Octets → Exec Unit
  | [], _ => return ()
  | name :: names, texts => do
      Parameter.set name (texts.headD [])
      share names (texts.drop 1)

/-- **A line is read into parameters.**  Nobody sees a prompt. -/
def read : Action := fun words => do
  let (chosen, names) ← options "p:r" words
  if names.isEmpty then fail "arg count".toList
  let r ← readLines (chooses chosen 'r') 100000 ⟨.empty, 0, false⟩
  let fields := r.close.expansion.fields ⟨← Parameter.separators⟩ (some names.length)
  share names (fields.map Glyph.text)
  return yes r.isComplete

end CommandBot.Shell.Builtin
