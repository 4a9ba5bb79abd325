/-
**Builtins.**

A builtin gets its arguments and gives a status.  Letters after a sign choose what it does; they end
with a word without the sign, or with one that is nothing but two signs.

* `CommandBot.Shell.Builtin.Action` — a builtin;
* `CommandBot.Shell.Builtin.options` — **the letters that are chosen, and the other arguments**;
* `CommandBot.Shell.Builtin.yes` — the status of an answer.
-/

import CommandBot.Shell.Process

set_option relaxedAutoImplicit false
set_option autoImplicit false

namespace CommandBot.Shell.Builtin

open Exec

/-- A builtin, as it runs on its arguments and gives a status. -/
abbrev Action := List Octets → Exec Nat

/-- The status of an answer: zero for a yes. -/
def yes (b : Bool) : Nat := if b then 0 else 1

/-- A letter that is chosen, with the argument that belongs to it. -/
abbrev Choice := Char × Octets

/-- The letters of a word, each without an argument; a letter that takes one takes the rest of the
word. -/
def letters (known : String) : Octets → Exec (List Choice × Option Char)
  | [] => return ([], none)
  | c :: rest => do
      if c = ':' || !known.toList.contains c then fail ("Illegal option -".toList ++ [c])
      let takes := (known.toList.dropWhile fun d => d != c)[1]? == some ':'
      if !takes then
        let (others, open?) ← letters known rest
        return ((c, []) :: others, open?)
      else if rest.isEmpty then return ([], some c)
      else return ([(c, rest)], none)

/-- **The letters that are chosen, and the other arguments.**  After a letter that takes an argument
stands a colon in the list of those that are known. -/
def options (known : String) : List Octets → Exec (List Choice × List Octets)
  | [] => return ([], [])
  | ['-', '-'] :: rest => return ([], rest)
  | ('-' :: c :: word) :: rest => do
      match ← letters known (c :: word), rest with
      | (chosen, none), rest => do
          let (others, arguments) ← options known rest
          return (chosen ++ others, arguments)
      | (chosen, some c), argument :: rest => do
          let (others, arguments) ← options known rest
          return (chosen ++ (c, argument) :: others, arguments)
      | (_, some c), [] => fail ("No arg for -".toList ++ c :: " option".toList)
  | arguments => return ([], arguments)

/-- The arguments of a builtin that knows no letters. -/
def plainArguments (arguments : List Octets) : Exec (List Octets) :=
  return (← options "" arguments).2

/-- Whether a letter is chosen. -/
def chooses (chosen : List Choice) (c : Char) : Bool := chosen.any fun choice => choice.1 == c

/-- A builtin without an effect. -/
def succeed : Action := fun _ => return 0

/-- A builtin without an effect that fails. -/
def decline : Action := fun _ => return 1

end CommandBot.Shell.Builtin
