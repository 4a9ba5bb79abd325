/-
**Conditions.**

A condition compares texts and numbers and is joined by signs.  A sign with an operand is taken for
an operand itself where the words around it leave no other reading.

* `CommandBot.Shell.Condition.Fault` — why a condition cannot be read;
* `CommandBot.Shell.Condition.Surroundings` — what a condition asks of the files;
* `CommandBot.Shell.Condition.Kind` — what a word is, given the words after it;
* `CommandBot.Shell.Condition.holds` — **whether a condition holds**, or what is wrong with it.
-/

import CommandBot.Shell.Numeral

set_option relaxedAutoImplicit false
set_option autoImplicit false

namespace CommandBot.Shell.Condition

/-- Why a condition cannot be read. -/
inductive Fault where
  /-- A word is followed by another that does not belong there. -/
  | unexpectedOperator (word : Octets)
  /-- A word is missing after a sign. -/
  | argumentExpected (word : Octets)
  /-- A text is no number. -/
  | notANumber (word : Octets)
  /-- A parenthesis is not closed. -/
  | unclosed

/-- What is wrong with a condition; an empty word is not named. -/
def Fault.text : Fault → Octets
  | unexpectedOperator [] => "unexpected operator".toList
  | unexpectedOperator word => word ++ ": unexpected operator".toList
  | argumentExpected word => word ++ ": argument expected".toList
  | notANumber word => "Illegal number: ".toList ++ word
  | unclosed => "closing paren expected".toList

/-- What a path leads to. -/
inductive Target where
  | file (isEmpty isExecutable : Bool)
  | directory
  | device
  | pipe
deriving DecidableEq, Repr

/-- What a condition asks of the files. -/
structure Surroundings where
  /-- What a path leads to, through links. -/
  target? : Octets → Option Target
  isLink : Octets → Bool
  /-- The place that a path leads to, if something is there. -/
  place? : Octets → Option (List Octets)
  /-- The time of the last change. -/
  changed? : Octets → Option Nat
  /-- Whether a descriptor leads to a terminal. -/
  isTerminal : Nat → Bool

/-! ### Signs -/

/-- The number that a word is. -/
def number (w : Octets) : Except Fault Int :=
  match Numeral.decimal? w with
  | some n => .ok n
  | none => .error (.notANumber w)

/-- A condition on one word. -/
abbrev Unary := Octets → Except Fault Bool

/-- A condition on what a path leads to. -/
def onTarget (s : Surroundings) (f : Target → Bool) : Unary := fun w =>
  .ok (((s.target? w).map f).getD false)

/-- Whether a target can be executed or entered. -/
def Target.isExecutable : Target → Bool
  | file _ isExecutable => isExecutable
  | directory => true
  | _ => false

/-- Whether a target is a file. -/
def Target.isFile : Target → Bool
  | file _ _ => true
  | _ => false

/-- Whether a target has a size. -/
def Target.hasSize : Target → Bool
  | file isEmpty _ => !isEmpty
  | directory => true
  | _ => false

/-- Whether a descriptor that a word numbers leads to a terminal. -/
def onTerminal (s : Surroundings) : Unary := fun w => do
  let n ← number w
  return 0 ≤ n && s.isTerminal n.toNat

/-- The condition on one word that a sign stands for.  The bot may read and write everything. -/
def unary? (s : Surroundings) (sign : String) : Option Unary :=
  match sign with
  | "-n" => some fun w => .ok (!w.isEmpty)
  | "-z" => some fun w => .ok w.isEmpty
  | "-t" => some (onTerminal s)
  | "-h" => some fun w => .ok (s.isLink w)
  | "-L" => some fun w => .ok (s.isLink w)
  | "-f" => some (onTarget s Target.isFile)
  | "-d" => some (onTarget s fun t => t == .directory)
  | "-c" => some (onTarget s fun t => t == .device)
  | "-p" => some (onTarget s fun t => t == .pipe)
  | "-s" => some (onTarget s Target.hasSize)
  | "-x" => some (onTarget s Target.isExecutable)
  | "-k" => some fun w => .ok (s.place? w == some ["tmp".toList])
  | _ =>
      if ["-e", "-r", "-w", "-O", "-G"].contains sign then some (onTarget s fun _ => true)
      else if ["-b", "-g", "-S", "-u"].contains sign then some (onTarget s fun _ => false)
      else none

/-- A comparison of two numbers. -/
def compareNumbers (f : Int → Int → Bool) (a b : Octets) : Except Fault Bool := do
  let x ← number a
  let y ← number b
  return f x y

/-- Whether something changed after something else. -/
def isNewer (s : Surroundings) (a b : Octets) : Bool :=
  match s.changed? a, s.changed? b with
  | some x, some y => y < x
  | _, _ => false

/-- A condition on two words. -/
def binary? (s : Surroundings) (sign : String) :
    Option (Octets → Octets → Except Fault Bool) :=
  match sign with
  | "=" => some fun a b => .ok (a == b)
  | "!=" => some fun a b => .ok (a != b)
  | "<" => some fun a b => .ok (Octets.isBefore a b)
  | ">" => some fun a b => .ok (Octets.isBefore b a)
  | "-eq" => some (compareNumbers fun x y => x == y)
  | "-ne" => some (compareNumbers fun x y => x != y)
  | "-lt" => some (compareNumbers fun x y => x < y)
  | "-le" => some (compareNumbers fun x y => x ≤ y)
  | "-gt" => some (compareNumbers fun x y => y < x)
  | "-ge" => some (compareNumbers fun x y => y ≤ x)
  | "-nt" => some fun a b => .ok (isNewer s a b)
  | "-ot" => some fun a b => .ok (isNewer s b a)
  | "-ef" => some fun a b => .ok ((s.place? a).isSome && s.place? a == s.place? b)
  | _ => none

/-- The sign that a word is. -/
def signOf (w : Octets) : String := String.ofList w

/-- A sign between two words. -/
def isBinary (s : Surroundings) (w : Octets) : Bool := (binary? s (signOf w)).isSome

/-! ### Kinds -/

/-- What a word is, given the words after it. -/
inductive Kind where
  | ended
  | operand
  | unary (f : Unary)
  | binary
  | reverse
  | both
  | either
  | opening
  | closing

/-- A sign before one word is an operand if no word follows, or if a comparison does. -/
def isOperand (s : Surroundings) : List Octets → Bool
  | [] => true
  | [_] => false
  | w :: _ => isBinary s w

/-- What the first of some words is. -/
def kindOf (s : Surroundings) : List Octets → Kind
  | [] => .ended
  | w :: rest =>
      match unary? s (signOf w) with
      | some f => if isOperand s rest then .operand else .unary f
      | none =>
          if isBinary s w then .binary
          else
            match signOf w with
            | "!" => .reverse
            | "-a" => .both
            | "-o" => .either
            | "(" => if rest.isEmpty then .operand else .opening
            | ")" => .closing
            | _ => .operand

/-! ### Reading -/

/-- Whether a condition holds, with the words from the last of it on. -/
abbrev Read := Except Fault (Bool × List Octets)

/-- A comparison, from its first word on. -/
def comparison (s : Surroundings) : List Octets → Read
  | a :: sign :: b :: rest =>
      match binary? s (signOf sign) with
      | some f => do return (← f a b, b :: rest)
      | none => .error (.unexpectedOperator sign)
  | _ :: sign :: [] => .error (.argumentExpected sign)
  | _ => .error (.argumentExpected [])

/-- A word by itself, or a comparison that it begins. -/
def plain (s : Surroundings) (words : List Octets) : Read :=
  match kindOf s (words.drop 1) with
  | .binary => comparison s words
  | _ => .ok (!(words.headD []).isEmpty, words)

/-- A simple condition, or one in parentheses. -/
def primary (s : Surroundings) (whole : Kind → List Octets → Read) (kind : Kind)
    (words : List Octets) : Read :=
  match kind with
  | .ended => .ok (false, words)
  | .opening =>
      match kindOf s (words.drop 1) with
      | .closing => .ok (false, words.drop 1)
      | inner => do
          let (value, last) ← whole inner (words.drop 1)
          match kindOf s (last.drop 1) with
          | .closing => return (value, last.drop 1)
          | _ => .error .unclosed
  | .unary f =>
      match words with
      | _ :: a :: rest => do return (← f a, a :: rest)
      | sign :: [] => .error (.argumentExpected sign)
      | [] => .error (.argumentExpected [])
  | _ => plain s words

/-- A condition after any number of signs that reverse it. -/
def reversed (s : Surroundings) (whole : Kind → List Octets → Read) :
    Nat → Kind → List Octets → Read
  | 0, _, _ => .error .unclosed
  | fuel + 1, .reverse, words => do
      let inner := kindOf s (words.drop 1)
      let next := match inner with
        | .ended => words
        | _ => words.drop 1
      let (value, last) ← reversed s whole fuel inner next
      return (!value, last)
  | _ + 1, kind, words => primary s whole kind words

/-- Conditions all of which hold. -/
def both (s : Surroundings) (atom : Kind → List Octets → Read) :
    Nat → Kind → List Octets → Read
  | 0, _, _ => .error .unclosed
  | fuel + 1, kind, words => do
      let (a, last) ← atom kind words
      match kindOf s (last.drop 1) with
      | .both => do
          let (b, last) ← both s atom fuel (kindOf s (last.drop 2)) (last.drop 2)
          return (a && b, last)
      | _ => return (a, last)

/-- Conditions one of which holds. -/
def either (s : Surroundings) (all : Kind → List Octets → Read) :
    Nat → Kind → List Octets → Read
  | 0, _, _ => .error .unclosed
  | fuel + 1, kind, words => do
      let (a, last) ← all kind words
      match kindOf s (last.drop 1) with
      | .either => do
          let (b, last) ← either s all fuel (kindOf s (last.drop 2)) (last.drop 2)
          return (a || b, last)
      | _ => return (a, last)

/-- A condition with so many parentheses within each other at most. -/
def read (s : Surroundings) (fuel : Nat) : Nat → Kind → List Octets → Read
  | 0 => fun _ _ => .error .unclosed
  | depth + 1 => either s (both s (reversed s (read s fuel depth) fuel) fuel) fuel

/-- A condition that must take all words; if it does not, its last word is to blame. -/
def whole (s : Surroundings) (kind : Kind) (words : List Octets) : Except Fault Bool := do
  let fuel := words.length + 2
  match ← read s fuel fuel kind words with
  | (_, last :: _ :: _) => .error (.unexpectedOperator last)
  | (value, _) => return value

/-- The words between parentheses around all of them. -/
def unwrap? (words : List Octets) : Option (List Octets) :=
  if words.head? = some ['('] ∧ words.getLast? = some [')'] then some (words.drop 1).dropLast
  else none

/-- A comparison of three words. -/
def isComparison (s : Surroundings) : List Octets → Bool
  | [_, sign, _] => isBinary s sign
  | _ => false

/-- The condition that some words are read as, and whether it is reversed.  Three or four words may
stand between parentheses, or behind signs that reverse; any number of these reverses once. -/
def stripped (s : Surroundings) : Nat → Bool → List Octets → Bool × List Octets
  | 0, reversed, words => (reversed, words)
  | fuel + 1, reversed, words =>
      if isComparison s words || (words.length != 3 && words.length != 4) then (reversed, words)
      else
        match unwrap? words, words with
        | some inner, _ => (reversed, inner)
        | none, ['!'] :: rest => stripped s fuel true rest
        | none, _ => (reversed, words)

/-- **Whether a condition holds.** -/
def holds (s : Surroundings) (words : List Octets) : Except Fault Bool := do
  let (reversed, words) := stripped s 2 false words
  if words.isEmpty then return false
  let kind := if isComparison s words then .operand else kindOf s words
  let value ← whole s kind words
  return value != reversed

end CommandBot.Shell.Condition
