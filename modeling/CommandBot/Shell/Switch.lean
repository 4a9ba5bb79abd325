/-
**Switches.**

A switch changes how a shell works.  It has a name, and mostly a letter too.

* `CommandBot.Shell.Switch` — the switches;
* `CommandBot.Shell.Switch.all` — all of them, in order;
* `CommandBot.Shell.Switch.ofLetter?`, `CommandBot.Shell.Switch.ofName?` — the switch of a letter or a
  name;
* `CommandBot.Shell.Switches` — the switches that are on;
* `CommandBot.Shell.Switches.letters` — their letters.
-/

import CommandBot.Text.Octets

set_option relaxedAutoImplicit false
set_option autoImplicit false

namespace CommandBot.Shell

/-- What changes how a shell works. -/
inductive Switch where
  /-- A failure ends the script. -/
  | errexit
  /-- No word is a pattern of paths. -/
  | noglob
  | ignoreeof
  | interactive
  | monitor
  /-- Commands are read and not run. -/
  | noexec
  | stdin
  /-- Commands are shown before they run. -/
  | xtrace
  | verbose
  | vi
  | emacs
  /-- No file is written anew. -/
  | noclobber
  /-- All parameters are exported. -/
  | allexport
  | notify
  /-- A parameter that is unset ends the script. -/
  | nounset
  | privileged
  | nolog
  | debug
deriving DecidableEq, Repr

namespace Switch

/-- All switches, in order. -/
def all : List Switch :=
  [errexit, noglob, ignoreeof, interactive, monitor, noexec, stdin, xtrace, verbose, vi, emacs,
    noclobber, allexport, notify, nounset, privileged, nolog, debug]

/-- The name of a switch. -/
def name : Switch → String
  | errexit => "errexit"
  | noglob => "noglob"
  | ignoreeof => "ignoreeof"
  | interactive => "interactive"
  | monitor => "monitor"
  | noexec => "noexec"
  | stdin => "stdin"
  | xtrace => "xtrace"
  | verbose => "verbose"
  | vi => "vi"
  | emacs => "emacs"
  | noclobber => "noclobber"
  | allexport => "allexport"
  | notify => "notify"
  | nounset => "nounset"
  | privileged => "privileged"
  | nolog => "nolog"
  | debug => "debug"

/-- The letter of a switch. -/
def letter? : Switch → Option Char
  | errexit => some 'e'
  | noglob => some 'f'
  | ignoreeof => some 'I'
  | interactive => some 'i'
  | monitor => some 'm'
  | noexec => some 'n'
  | stdin => some 's'
  | xtrace => some 'x'
  | verbose => some 'v'
  | vi => some 'V'
  | emacs => some 'E'
  | noclobber => some 'C'
  | allexport => some 'a'
  | notify => some 'b'
  | nounset => some 'u'
  | privileged => some 'p'
  | nolog => none
  | debug => none

/-- The switch of a letter. -/
def ofLetter? (c : Char) : Option Switch := all.find? fun s => s.letter? == some c

/-- The switch of a name. -/
def ofName? (name : Octets) : Option Switch := all.find? fun s => s.name.toList = name

end Switch

/-- The switches that are on. -/
abbrev Switches := List Switch

namespace Switches

/-- Whether a switch is on. -/
def isOn (s : Switches) (switch : Switch) : Bool := s.contains switch

/-- The switches with one turned on or off. -/
def turn (s : Switches) (switch : Switch) (on : Bool) : Switches :=
  let others := s.filter fun other => other != switch
  if on then switch :: others else others

/-- **The letters of the switches that are on**, the last switch first. -/
def letters (s : Switches) : Octets :=
  (Switch.all.reverse.filter s.contains).filterMap Switch.letter?

/-- A text filled up with blanks. -/
def fill (width : Nat) (s : String) : String :=
  s ++ String.ofList (List.replicate (width - s.length) ' ')

/-- All switches as a table. -/
def table (s : Switches) : String :=
  String.join ("Current option settings\n" :: Switch.all.map fun switch =>
    fill 16 switch.name ++ (if s.contains switch then "on" else "off") ++ "\n")

/-- All switches as commands that would turn them so. -/
def script (s : Switches) : String :=
  String.join (Switch.all.map fun switch =>
    "set " ++ (if s.contains switch then "-o " else "+o ") ++ switch.name ++ "\n")

end Switches

end CommandBot.Shell
