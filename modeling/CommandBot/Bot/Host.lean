/-
**The host and what its programs leave behind.**

A command line of the host ends with a status and leaves what it printed, as bytes.  What it
printed is shown if it succeeded; otherwise its complaint is, or its status if it made none.

* `CommandBot.Host.Status` — how a command line ended;
* `CommandBot.Host.Outcome` — what it left;
* `CommandBot.Host.result` — what the bot makes of it;
* `CommandBot.Host.fenced` — a text shown between fences.
-/

import CommandBot.Failure
import CommandBot.Text.Blank
import CommandBot.Text.Cut
import CommandBot.Text.Utf8

set_option relaxedAutoImplicit false
set_option autoImplicit false

namespace CommandBot.Host

/-! ### How a command line ends -/

/-- How a command line ended.  A code takes one byte, and so does the number of a signal. -/
inductive Status where
  /-- It exited with a code. -/
  | exited (code : UInt8)
  /-- A signal killed it, and it may have left an image of its memory. -/
  | killed (signal : UInt8) (dumped : Bool)
deriving DecidableEq, Repr

/-- The names of the signals, from the first. -/
def signalNames : List String :=
  ["HUP", "INT", "QUIT", "ILL", "TRAP", "ABRT", "BUS", "FPE", "KILL", "USR1", "SEGV", "USR2",
    "PIPE", "ALRM", "TERM", "STKFLT", "CHLD", "CONT", "STOP", "TSTP", "TTIN", "TTOU", "URG",
    "XCPU", "XFSZ", "VTALRM", "PROF", "WINCH", "IO", "PWR", "SYS"]

/-- The name of a signal in brackets, if it has one. -/
def signalSuffix (signal : Nat) : String :=
  match signal with
  | 0 => ""
  | n + 1 =>
      match signalNames[n]? with
      | some name => " (SIG" ++ name ++ ")"
      | none => ""

/-- The wording of a status. -/
def Status.text : Status → String
  | .exited code => "exit status: " ++ code.toNat.repr
  | .killed signal dumped =>
      "signal: " ++ signal.toNat.repr ++ signalSuffix signal.toNat ++
        (if dumped then " (core dumped)" else "")

/-- A command line succeeds if it exits with the code zero. -/
def Status.isSuccess : Status → Bool
  | .exited code => code == 0
  | .killed _ _ => false

/-- What a command line left. -/
inductive Outcome where
  /-- It could not be started. -/
  | unstartable (reason : String)
  /-- It was run to its end. -/
  | ended (status : Status) (output errors : List UInt8)
deriving DecidableEq, Repr

/-! ### What is shown of it -/

/-- The number of characters that are shown of a text. -/
def shownLimit : Nat := 1900

/-- The complaint of a failed command line, or its status if it made none. -/
def complaint (status : Status) (errors : List UInt8) : String :=
  match Text.trimChars (Text.Utf8.decodeLossy errors) with
  | [] => status.text
  | text => String.ofList (Text.truncate shownLimit text)

/-- **What the bot makes of an outcome**: the output, or a failure with the complaint. -/
def result : Outcome → Except CommandError String
  | .unstartable reason => .error (.execution reason)
  | .ended status output errors =>
      if status.isSuccess then .ok (String.ofList (Text.Utf8.decodeLossy output))
      else .error (.execution (complaint status errors))

/-! ### Fences -/

/-- The mark of which three make a fence. -/
def fenceMark : Char := '\x60'

/-- A character without width. -/
def zeroWidth : Char := '\u200b'

/-- The text with every fence in it broken by a character without width. -/
def breakFences : List Char → List Char
  | a :: b :: c :: rest =>
      if a = fenceMark ∧ b = fenceMark ∧ c = fenceMark then
        fenceMark :: zeroWidth :: fenceMark :: fenceMark :: breakFences rest
      else a :: breakFences (b :: c :: rest)
  | s => s

/-- What stands between the fences. -/
def fencedBody (s : List Char) : List Char := Text.truncate shownLimit (breakFences s)

/-- The line that opens and closes. -/
def fence : List Char := [fenceMark, fenceMark, fenceMark]

/-- **A text between fences**, which shows it as it is. -/
def fenced (s : String) : String :=
  String.ofList (fence ++ '\n' :: fencedBody s.toList ++ '\n' :: fence)

end CommandBot.Host
