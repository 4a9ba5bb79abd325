/-
**Signals.**

A signal has a number and mostly a name.  The signals from 34 on have names that count from the first
of them or from the last.

* `CommandBot.Shell.Signal.name` — the name of a signal;
* `CommandBot.Shell.Signal.read?` — the signal that a word names;
* `CommandBot.Shell.Signal.kills` — whether a signal ends a shell that does not catch it;
* `CommandBot.Shell.Signal.meaning` — what is said of a command that a signal ended.
-/

import CommandBot.Bot.Host
import CommandBot.Shell.Numeral

set_option relaxedAutoImplicit false
set_option autoImplicit false

namespace CommandBot.Shell.Signal

/-! ### Numbers -/

/-- The greatest number of a signal. -/
def greatest : Nat := 64

/-- The signal of an expression that the processor does not forgive. -/
def arithmetic : Nat := 8

/-- The signal that nothing survives. -/
def sure : Nat := 9

/-- The signal of a text that nobody reads. -/
def brokenPipe : Nat := 13

/-- The signal that asks a process to end. -/
def usual : Nat := 15

/-- The signal that tells of the end of a process. -/
def childEnded : Nat := 17

/-! ### Names -/

/-- A number with a word before it, unless it is zero. -/
def offsetName (word sign : String) (n : Nat) : String :=
  if n = 0 then word else word ++ sign ++ n.repr

/-- **The name of a signal**, or its number if it has none. -/
def name (signal : Nat) : String :=
  if signal = 0 then "EXIT"
  else if 34 ≤ signal && signal ≤ 49 then offsetName "RTMIN" "+" (signal - 34)
  else if 50 ≤ signal && signal ≤ 64 then offsetName "RTMAX" "-" (64 - signal)
  else if signal = 16 then signal.repr
  else (Host.signalNames[signal - 1]?).getD signal.repr

/-- The signal of a name from a number on, in letters of either case. -/
def ofName? (least : Nat) (word : String) : Option Nat :=
  (List.range (greatest + 1)).find? fun n => least ≤ n && name n = word.toUpper

/-- **The signal that a word names**, by its number or its name. -/
def read? (least : Nat) (word : Octets) : Option Nat :=
  match Numeral.digits? word with
  | some n => if n ≤ greatest then some n else none
  | none => ofName? least (String.ofList word)

/-! ### Effects -/

/-- **Whether a signal ends a shell that does not catch it.** -/
def kills (signal : Nat) : Bool := !([0, 17, 18, 19, 20, 21, 22, 23, 28].contains signal)

/-- **What is said of a command that a signal ended.** -/
def meaning (signal : Nat) : String :=
  match signal with
  | 1 => "Hangup"
  | 2 => "Interrupt"
  | 3 => "Quit"
  | 4 => "Illegal instruction"
  | 5 => "Trace/breakpoint trap"
  | 6 => "Aborted"
  | 7 => "Bus error"
  | 8 => "Floating point exception"
  | 9 => "Killed"
  | 10 => "User defined signal 1"
  | 11 => "Segmentation fault"
  | 12 => "User defined signal 2"
  | 13 => "Broken pipe"
  | 14 => "Alarm clock"
  | 15 => "Terminated"
  | 16 => "Stack fault"
  | 24 => "CPU time limit exceeded"
  | 25 => "File size limit exceeded"
  | 26 => "Virtual timer expired"
  | 27 => "Profiling timer expired"
  | 29 => "I/O possible"
  | 30 => "Power failure"
  | 31 => "Bad system call"
  | n => if 34 ≤ n then "Real-time signal " ++ (n - 34).repr else "Unknown signal " ++ n.repr

end CommandBot.Shell.Signal
