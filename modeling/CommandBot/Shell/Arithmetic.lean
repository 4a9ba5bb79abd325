/-
**Arithmetic.**

Expressions over numbers of 64 bits, with the signs and the precedence of C.  A name stands for the
number that its parameter holds; one that is unset or empty stands for zero.  An expression is
computed while it is read, so that of two faults in it the first counts.

* `CommandBot.Shell.Arithmetic.tokens` — the tokens of a text;
* `CommandBot.Shell.Arithmetic.Fault` — why an expression has no value;
* `CommandBot.Shell.Arithmetic.apply` — the operations on two numbers;
* `CommandBot.Shell.Arithmetic.compute` — **the value of a text**, and the assignments in it.
-/

import CommandBot.Shell.Numeral

set_option relaxedAutoImplicit false
set_option autoImplicit false

namespace CommandBot.Shell.Arithmetic

/-! ### Tokens -/

/-- A token of an expression. -/
inductive Token where
  | number (n : Int)
  | name (s : Octets)
  | sign (s : String)
deriving DecidableEq, Repr

/-- The signs, the longest first. -/
def signs : List String :=
  ["<<=", ">>=", "<<", ">>", "<=", ">=", "==", "!=", "&&", "||", "+=", "-=", "*=", "/=", "%=",
    "&=", "^=", "|=", "+", "-", "*", "/", "%", "<", ">", "=", "!", "~", "&", "^", "|", "?", ":",
    "(", ")"]

/-- The first of some signs that a text begins with. -/
def firstSign? (s : Octets) : List String → Option String
  | [] => none
  | sign :: rest => if sign.toList.isPrefixOf s then some sign else firstSign? s rest

/-- A blank between tokens. -/
def isBlank (c : Char) : Bool := c == ' ' || c == '\t' || c == '\n'

/-- The tokens of a text in so many steps; an octet that belongs to none is a sign by itself. -/
def tokensIn : Nat → Octets → List Token
  | 0, _ => []
  | _, [] => []
  | fuel + 1, c :: rest =>
      if isBlank c then tokensIn fuel rest
      else if c.isDigit then
        match Numeral.scanUnsigned? (c :: rest) with
        | some (n, rest) => .number (Numeral.clamp n) :: tokensIn fuel rest
        | none => tokensIn fuel rest
      else if isNameStart c then
        let name := (c :: rest).takeWhile isNameChar
        .name name :: tokensIn fuel ((c :: rest).drop name.length)
      else
        match firstSign? (c :: rest) signs with
        | some sign => .sign sign :: tokensIn fuel ((c :: rest).drop sign.length)
        | none => .sign (String.ofList [c]) :: tokensIn fuel rest

/-- The tokens of a text. -/
def tokens (s : Octets) : List Token := tokensIn s.length s

/-! ### Operations -/

/-- The operations on two numbers. -/
inductive Operation where
  | add | sub | mul | div | mod | shl | shr | lt | le | gt | ge | eq | ne | and | xor | or
deriving DecidableEq, Repr

/-- The operations with their signs and how tightly they bind. -/
def operation? : String → Option (Operation × Nat)
  | "*" => some (.mul, 8)
  | "/" => some (.div, 8)
  | "%" => some (.mod, 8)
  | "+" => some (.add, 7)
  | "-" => some (.sub, 7)
  | "<<" => some (.shl, 6)
  | ">>" => some (.shr, 6)
  | "<" => some (.lt, 5)
  | "<=" => some (.le, 5)
  | ">" => some (.gt, 5)
  | ">=" => some (.ge, 5)
  | "==" => some (.eq, 4)
  | "!=" => some (.ne, 4)
  | "&" => some (.and, 3)
  | "^" => some (.xor, 2)
  | "|" => some (.or, 1)
  | _ => none

/-- The operation of a sign that assigns; the plain one has none. -/
def assignment? : String → Option (Option Operation)
  | "=" => some none
  | "*=" => some (some .mul)
  | "/=" => some (some .div)
  | "%=" => some (some .mod)
  | "+=" => some (some .add)
  | "-=" => some (some .sub)
  | "<<=" => some (some .shl)
  | ">>=" => some (some .shr)
  | "&=" => some (some .and)
  | "^=" => some (some .xor)
  | "|=" => some (some .or)
  | _ => none

/-- Why an expression has no value. -/
inductive Fault where
  /-- Something is wrong with the expression. -/
  | expression (reason : String)
  /-- A parameter holds no number. -/
  | notANumber (value : Octets)
  /-- A parameter cannot be changed. -/
  | readOnly (name : Octets)
  /-- A quotient does not fit 64 bits, which the processor does not forgive. -/
  | overflow
deriving DecidableEq, Repr

/-- The number of a truth. -/
def ofBool (b : Bool) : Int := if b then 1 else 0

/-- The bits of a number. -/
def bits (n : Int) : Nat := (n % UInt64.size).toNat

/-- A quotient or a remainder. -/
def divide (f : Int → Int → Int) (a b : Int) : Except Fault Int :=
  if b = 0 then .error (.expression "division by zero")
  else if a = Numeral.least ∧ b = -1 then .error .overflow
  else .ok (f a b)

/-- **What an operation makes of two numbers.** -/
def apply : Operation → Int → Int → Except Fault Int
  | .add, a, b => .ok (Numeral.wrap (a + b))
  | .sub, a, b => .ok (Numeral.wrap (a - b))
  | .mul, a, b => .ok (Numeral.wrap (a * b))
  | .div, a, b => divide Int.tdiv a b
  | .mod, a, b => divide Int.tmod a b
  | .shl, a, b => .ok (Numeral.wrap (a <<< (bits b % 64)))
  | .shr, a, b => .ok (a >>> (bits b % 64))
  | .lt, a, b => .ok (ofBool (a < b))
  | .le, a, b => .ok (ofBool (a ≤ b))
  | .gt, a, b => .ok (ofBool (b < a))
  | .ge, a, b => .ok (ofBool (b ≤ a))
  | .eq, a, b => .ok (ofBool (a = b))
  | .ne, a, b => .ok (ofBool (a ≠ b))
  | .and, a, b => .ok (Numeral.wrap (Nat.land (bits a) (bits b)))
  | .xor, a, b => .ok (Numeral.wrap (Nat.xor (bits a) (bits b)))
  | .or, a, b => .ok (Numeral.wrap (Nat.lor (bits a) (bits b)))

/-! ### Parameters -/

/-- The parameters of a script. -/
structure Parameters where
  get? : Octets → Option Octets
  isReadOnly : Octets → Bool

/-- The tokens that remain, and the assignments so far, the latest first. -/
structure State where
  tokens : List Token
  assigned : List (Octets × Int)

/-- A computation.  What it assigned before a fault stays assigned. -/
abbrev Computation := ExceptT Fault (StateM State)

/-- The next token, which stays. -/
def head? : Computation (Option Token) := return (← get).tokens.head?

/-- The next token is passed. -/
def pass : Computation Unit := modify fun s => { s with tokens := s.tokens.drop 1 }

/-- The number that a parameter holds. -/
def valueOf (p : Parameters) (name : Octets) : Computation Int := do
  match (← get).assigned.lookup name with
  | some n => return n
  | none => do
      let value := (p.get? name).getD []
      match Numeral.whole? value with
      | some n => return n
      | none => throw (.notANumber value)

/-- A parameter gets a number. -/
def assign (p : Parameters) (name : Octets) (n : Int) : Computation Int := do
  if p.isReadOnly name then throw (.readOnly name)
  modify fun s => { s with assigned := (name, n) :: s.assigned }
  return n

/-! ### Values -/

/-- What computes the parts of an expression; with the flag set, nothing is looked up or assigned. -/
structure Parts where
  /-- An expression that may assign. -/
  assigning : Bool → Computation Int
  /-- An expression that may choose. -/
  choosing : Bool → Computation Int
  /-- The operand of a sign. -/
  operand : Bool → Computation Int
  /-- Operations that bind more tightly than a bound, after their first operand. -/
  operations : Bool → Nat → Int → Computation Int
  /-- Truths that must all hold. -/
  all : Bool → Computation Int
  /-- Truths one of which must hold. -/
  any : Bool → Computation Int

/-- The sign that must come next. -/
def require (sign complaint : String) : Computation Unit := do
  match ← head? with
  | some (.sign s) => if s = sign then pass else throw (.expression complaint)
  | _ => throw (.expression complaint)

/-- A number, a name, or an expression in parentheses, with the signs before it. -/
def operand (p : Parameters) (c : Parts) (idle : Bool) : Computation Int := do
  match ← head? with
  | some (.number n) => do
      pass
      return n
  | some (.name s) => do
      pass
      if idle then return 0 else valueOf p s
  | some (.sign "+") => do
      pass
      c.operand idle
  | some (.sign "-") => do
      pass
      return Numeral.wrap (-(← c.operand idle))
  | some (.sign "!") => do
      pass
      return ofBool ((← c.operand idle) = 0)
  | some (.sign "~") => do
      pass
      return Numeral.wrap (-(← c.operand idle) - 1)
  | some (.sign "(") => do
      pass
      let n ← c.assigning idle
      require ")" "expecting ')'"
      return n
  | _ => throw (.expression "expecting primary")

/-- The operation that comes next, if one does. -/
def operationNext? : Computation (Option (Operation × Nat)) := do
  match ← head? with
  | some (.sign s) => return operation? s
  | _ => return none

/-- Operations that bind more tightly than a bound, after their first operand. -/
def operations (c : Parts) (idle : Bool) (bound : Nat) (a : Int) : Computation Int := do
  match ← operationNext? with
  | none => return a
  | some (op, tightness) =>
      if tightness ≤ bound then return a
      else do
        pass
        let b ← c.operations idle tightness (← c.operand idle)
        let n ← if idle then pure b else liftExcept (apply op a b)
        c.operations idle bound n
where
  /-- A value or a fault. -/
  liftExcept (result : Except Fault Int) : Computation Int :=
    match result with
    | .ok n => return n
    | .error fault => throw fault

/-- The sign that comes next is passed if it is a certain one. -/
def passes? (sign : String) : Computation Bool := do
  match ← head? with
  | some (.sign s) =>
      if s = sign then do
        pass
        return true
      else return false
  | _ => return false

/-- Truths that must all hold; after one that does not the others are idle. -/
def all (c : Parts) (idle : Bool) : Computation Int := do
  let a ← c.operations idle 0 (← c.operand idle)
  if ← passes? "&&" then
    let b ← c.all (idle || a == 0)
    return ofBool (a ≠ 0 ∧ b ≠ 0)
  else return a

/-- Truths one of which must hold; after one that does the others are idle. -/
def any (c : Parts) (idle : Bool) : Computation Int := do
  let a ← c.all idle
  if ← passes? "||" then
    let b ← c.any (idle || a != 0)
    return ofBool (a ≠ 0 ∨ b ≠ 0)
  else return a

/-- An expression that may choose; the one that is not chosen is idle. -/
def choosing (c : Parts) (idle : Bool) : Computation Int := do
  let condition ← c.any idle
  if ← passes? "?" then
    let a ← c.assigning (idle || condition == 0)
    require ":" "expecting ':'"
    let b ← c.choosing (idle || condition != 0)
    return if condition ≠ 0 then a else b
  else return condition

/-- The assignment that comes next, if one does. -/
def assignmentNext? : Computation (Option (Octets × Option Operation)) := do
  match (← get).tokens with
  | .name name :: .sign s :: _ => return (assignment? s).map fun op => (name, op)
  | _ => return none

/-- An expression that may assign. -/
def assigning (p : Parameters) (c : Parts) (idle : Bool) : Computation Int := do
  match ← assignmentNext? with
  | none => c.choosing idle
  | some (name, op) => do
      pass
      pass
      let n ← c.assigning idle
      if idle then return n
      match op with
      | none => assign p name n
      | some op =>
          match apply op (← valueOf p name) n with
          | .ok n => assign p name n
          | .error fault => throw fault

/-- What computes the parts of an expression in so many steps at most. -/
def parts (p : Parameters) : Nat → Parts
  | 0 =>
      let deep := throw (.expression "expression too deep")
      ⟨fun _ => deep, fun _ => deep, fun _ => deep, fun _ _ _ => deep, fun _ => deep, fun _ => deep⟩
  | fuel + 1 =>
      let c := parts p fuel
      { assigning := assigning p c
        choosing := choosing c
        operand := operand p c
        operations := operations c
        all := all c
        any := any c }

/-- The value of all tokens. -/
def whole (p : Parameters) (fuel : Nat) : Computation Int := do
  let n ← (parts p fuel).assigning false
  match ← head? with
  | none => return n
  | some _ => throw (.expression "expecting EOF")

/-- **The value of a text**, and the assignments in it, in order. -/
def compute (p : Parameters) (s : Octets) : Except Fault Int × List (Octets × Int) :=
  let tokens := tokens s
  let (result, state) := (whole p (8 * tokens.length + 16)).run.run ⟨tokens, []⟩
  (result, state.assigned.reverse)

end CommandBot.Shell.Arithmetic
