/-
**Printing to a format.**

A format is text with escapes and directives.  Each directive takes one argument; an argument that is
missing counts as empty or as zero.  The format is used again as long as arguments are left and it
takes any.

* `CommandBot.Shell.Escape.expand` — a text with its escapes replaced;
* `CommandBot.Shell.Format.Directive` — a directive;
* `CommandBot.Shell.Format.run` — **what a format makes of some arguments.**
-/

import CommandBot.Shell.Binary64

set_option relaxedAutoImplicit false
set_option autoImplicit false

namespace CommandBot.Shell

namespace Escape

/-! ### Escapes -/

/-- A digit of an octal number. -/
def isOctal (c : Char) : Bool := '0' ≤ c && c ≤ '7'

/-- The character of an octal number, cut to an octet. -/
def octet (digits : Octets) : Char := Char.ofNat (Numeral.value 8 digits % 256)

/-- The character that a letter after a backslash stands for. -/
def letter? : Char → Option Char
  | '\\' => some '\\'
  | 'a' => some '\x07'
  | 'b' => some '\x08'
  | 'e' => some '\x1b'
  | 'f' => some '\x0c'
  | 'n' => some '\n'
  | 'r' => some '\r'
  | 't' => some '\t'
  | 'v' => some '\x0b'
  | _ => none

/-- The character of an escape whose backslash was read, and what follows it.  What is no escape
leaves its backslash. -/
def one (s : Octets) : Char × Octets :=
  let digits := (s.take 3).takeWhile isOctal
  if digits.isEmpty then
    match s with
    | [] => ('\\', [])
    | c :: rest =>
        match letter? c with
        | some d => (d, rest)
        | none => ('\\', c :: rest)
  else (octet digits, s.drop digits.length)

/-- A text without the zero that may stand before an octal number. -/
def dropZero : Octets → Octets
  | '0' :: c :: rest => if isOctal c then c :: rest else '0' :: c :: rest
  | s => s

/-- **A text with its escapes replaced**, and whether an escape asked to stop there. -/
def expand : Nat → Octets → Octets × Bool
  | 0, _ => ([], false)
  | _, [] => ([], false)
  | _, '\\' :: 'c' :: _ => ([], true)
  | fuel + 1, '\\' :: rest =>
      let (c, rest) := one (dropZero rest)
      let (s, stops) := expand fuel rest
      (c :: s, stops)
  | fuel + 1, c :: rest =>
      let (s, stops) := expand fuel rest
      (c :: s, stops)

/-- A whole text with its escapes replaced. -/
def expandAll (s : Octets) : Octets × Bool := expand s.length s

end Escape

namespace Format

/-! ### Directives -/

/-- A directive. -/
structure Directive where
  /-- The flags of the directive. -/
  flags : Octets
  width : Nat
  precision : Option Nat
  /-- The letter that says what is printed. -/
  kind : Char

/-- Whether a directive has a flag. -/
def Directive.has (d : Directive) (flag : Char) : Bool := d.flags.contains flag

/-- A text filled up to the width. -/
def Directive.pad (d : Directive) (s : Octets) : Octets :=
  let fill := List.replicate (d.width - s.length) ' '
  if d.has '-' then s ++ fill else fill ++ s

/-- A text cut to the precision and filled up to the width. -/
def Directive.text (d : Directive) (s : Octets) : Octets :=
  d.pad (match d.precision with
    | none => s
    | some n => s.take n)

/-- What stands before the digits of a number. -/
def Directive.lead (d : Directive) (n : Int) : Octets :=
  if d.kind == 'd' || d.kind == 'i' then
    if n < 0 then ['-'] else if d.has '+' then ['+'] else if d.has ' ' then [' '] else []
  else if d.has '#' && n != 0 then
    match d.kind with
    | 'x' => ['0', 'x']
    | 'X' => ['0', 'X']
    | _ => []
  else []

/-- The digits of a number without its sign. -/
def Directive.digits (d : Directive) (n : Int) : Octets :=
  match d.kind with
  | 'o' => Nat.toDigits 8 (n % UInt64.size).toNat
  | 'x' => Nat.toDigits 16 (n % UInt64.size).toNat
  | 'X' => (Nat.toDigits 16 (n % UInt64.size).toNat).map Char.toUpper
  | 'u' => Nat.toDigits 10 (n % UInt64.size).toNat
  | _ => Nat.toDigits 10 n.natAbs

/-- The digits with zeros in front up to the precision; of zero none may be shown. -/
def Directive.preciseDigits (d : Directive) (n : Int) : Octets :=
  let digits := d.digits n
  let shown := if n = 0 ∧ d.precision = some 0 then [] else digits
  let zeros := List.replicate (d.precision.getD 1 - shown.length) '0'
  let all := zeros ++ shown
  if d.kind == 'o' && d.has '#' && all.head? != some '0' then '0' :: all else all

/-- A number as a directive prints it. -/
def Directive.number (d : Directive) (n : Int) : Octets :=
  let lead := d.lead n
  let digits := d.preciseDigits n
  if d.has '0' && !d.has '-' && d.precision.isNone then
    lead ++ List.replicate (d.width - lead.length - digits.length) '0' ++ digits
  else d.pad (lead ++ digits)

/-- The precision of a number with a point, where none is given. -/
def usualPrecision : Nat := 6

/-- A number with a point and without its sign. -/
def Directive.real (d : Directive) (x : Binary64) : Octets :=
  let precision := d.precision.getD usualPrecision
  match x, d.kind.toLower with
  | .infinite, _ => "inf".toList
  | .notANumber, _ => "nan".toList
  | .finite m e, 'f' => Binary64.fixed m e precision (d.has '#')
  | .finite m e, 'e' => Binary64.scientific m e precision (d.has '#')
  | .finite m e, 'g' => Binary64.general m e precision (d.has '#')
  | .finite m e, _ => Binary64.hexadecimal m e d.precision (d.has '#')

/-- A number with a point as a directive prints it. -/
def Directive.signedReal (d : Directive) (x : Binary64.Signed) : Octets :=
  let sign : Octets :=
    if x.isNegative then ['-'] else if d.has '+' then ['+'] else if d.has ' ' then [' '] else []
  let text := d.real x.value
  let text := if d.kind.isUpper then text.map Char.toUpper else text
  let isFinite := x.value matches .finite _ _
  let mark := if isFinite && d.kind.toLower == 'a' then text.take 2 else []
  let digits := text.drop mark.length
  if d.has '0' && !d.has '-' && isFinite then
    let length := sign.length + mark.length + digits.length
    sign ++ mark ++ List.replicate (d.width - length) '0' ++ digits
  else d.pad (sign ++ mark ++ digits)

/-! ### Printing -/

/-- What was printed so far, and what is left to print. -/
structure Progress where
  /-- The pieces that were printed, in reverse. -/
  printed : List Octets
  arguments : List Octets
  complaints : List Octets
  /-- Why printing cannot go on, if it cannot. -/
  failure : Option Octets
  stopped : Bool

namespace Progress

/-- One more piece is printed. -/
def print (p : Progress) (s : Octets) : Progress := { p with printed := s :: p.printed }

/-- The next argument, if one is left. -/
def take (p : Progress) : Option Octets × Progress :=
  match p.arguments with
  | [] => (none, p)
  | a :: rest => (some a, { p with arguments := rest })

/-- A complaint about an argument. -/
def complain (p : Progress) (argument : Octets) (text : String) : Progress :=
  { p with complaints := p.complaints ++ [argument ++ text.toList] }

/-- The next argument as a number. -/
def takeNumber (isSigned : Bool) (p : Progress) : Int × Progress :=
  match p.take with
  | (none, p) => (0, p)
  | (some a, p) =>
      match a with
      -- a quote makes a number of the character after it
      | '\'' :: rest => (((rest.head?.map Char.toNat).getD 0 : Nat), p)
      | '"' :: rest => (((rest.head?.map Char.toNat).getD 0 : Nat), p)
      | _ =>
          let (n, rest) := Numeral.scan a
          let fits := if isSigned then Numeral.clamp n == n else decide (n.natAbs < UInt64.size)
          let value := if isSigned then Numeral.clamp n else if fits then n else 0xffffffffffffffff
          if !rest.isEmpty || a.isEmpty then
            if (Numeral.scan? a).isNone then
              (value, if a.isEmpty then p else p.complain a ": expected numeric value")
            else (value, p.complain a ": not completely converted")
          else if fits then (value, p)
          else (value, p.complain a ": Numerical result out of range")

/-- The next argument as a number with a point. -/
def takeReal (p : Progress) : Binary64.Signed × Progress :=
  let whole (n : Nat) : Binary64.Signed := ⟨false, (Binary64.ofRatio n 1).1, false⟩
  match p.take with
  | (none, p) => (whole 0, p)
  | (some a, p) =>
      match a with
      | '\'' :: rest => (whole ((rest.head?.map Char.toNat).getD 0), p)
      | '"' :: rest => (whole ((rest.head?.map Char.toNat).getD 0), p)
      | _ =>
          match Binary64.scan? a with
          | none => (whole 0, if a.isEmpty then p else p.complain a ": expected numeric value")
          | some (x, rest) =>
              if !rest.isEmpty then (x, p.complain a ": not completely converted")
              else if x.isOutOfRange then (x, p.complain a ": Numerical result out of range")
              else (x, p)

/-- Printing cannot go on. -/
def fail (p : Progress) (reason : Octets) : Progress :=
  { p with failure := some reason, stopped := true }

/-- The next argument, printed as a directive says. -/
def direct (p : Progress) (d : Directive) (source : Octets) : Progress :=
  match d.kind with
  | 's' =>
      let (a, p) := p.take
      p.print (d.text (a.getD []))
  | 'b' =>
      let (a, p) := p.take
      let (s, stops) := Escape.expandAll (a.getD [])
      { p.print (d.text s) with stopped := stops }
  | 'c' =>
      let (a, p) := p.take
      p.print (d.pad [((a.getD []).head?).getD '\x00'])
  | kind =>
      if kind == 'd' || kind == 'i' then
        let (n, p) := p.takeNumber true
        p.print (d.number n)
      else if kind == 'o' || kind == 'u' || kind == 'x' || kind == 'X' then
        let (n, p) := p.takeNumber false
        p.print (d.number n)
      else if "aAeEfFgG".toList.contains kind then
        let (x, p) := p.takeReal
        p.print (d.signedReal x)
      else p.fail (source ++ ": invalid directive".toList)

end Progress

/-! ### Formats -/

/-- A flag of a directive. -/
def isFlag (c : Char) : Bool := "#-+ 0".toList.contains c

/-- The letters that say what is printed. -/
def kinds : Octets := "sbcdiouxXaAeEfFgG".toList

/-- The bound of what a directive may ask for. -/
def sizeBound : Nat := 0x80000000

/-- A number in a directive, or an argument in its place, which is cut to 32 bits; what follows it. -/
def readSize (s : Octets) (p : Progress) : Int × Octets × Progress :=
  match s with
  | '*' :: rest =>
      let (n, p) := p.takeNumber true
      (n.bmod (2 * sizeBound), rest, p)
  | s =>
      let digits := s.takeWhile Char.isDigit
      ((Numeral.value 10 digits : Nat), s.drop digits.length, p)

/-- The directive whose mark was read, printed, with what follows it. -/
def readDirective (s : Octets) (p : Progress) : Octets × Progress :=
  let flags := s.takeWhile isFlag
  let (width, afterWidth, p) := readSize (s.drop flags.length) p
  let flags := if width < 0 then '-' :: flags else flags
  let (precision, rest, p) := match afterWidth with
    | '.' :: rest =>
        let (n, rest, p) := readSize rest p
        (if n < 0 then none else some n.toNat, rest, p)
    | rest => (none, rest, p)
  match rest with
  | [] => ([], p.fail "missing format character".toList)
  | kind :: rest =>
      let source := '%' :: s.take (s.length - rest.length)
      if kinds.contains kind && sizeBound ≤ max width.natAbs (precision.getD 0) then
        (rest, p.fail "xvsnprintf failed".toList)
      else (rest, p.direct ⟨flags, width.natAbs, precision, kind⟩ source)

/-- A format used once. -/
def pass : Nat → Octets → Progress → Progress
  | 0, _, p => p
  | _, [], p => p
  | fuel + 1, c :: rest, p =>
      if p.stopped then p
      else if c = '\\' then
        let (d, rest) := Escape.one rest
        pass fuel rest (p.print [d])
      else if c = '%' then
        match rest with
        | '%' :: rest => pass fuel rest (p.print ['%'])
        | rest =>
            let (rest, p) := readDirective rest p
            pass fuel rest p
      else pass fuel rest (p.print [c])

/-- A format used as long as arguments are left and it takes any. -/
def passes (format : Octets) : Nat → Progress → Progress
  | 0, p => p
  | fuel + 1, p =>
      let after := pass format.length format p
      if after.stopped || after.arguments.isEmpty || after.arguments.length == p.arguments.length
      then after
      else passes format fuel after

/-- **What a format makes of some arguments.** -/
def run (format : Octets) (arguments : List Octets) : Progress :=
  passes format (arguments.length + 1) ⟨[], arguments, [], none, false⟩

/-- The text that was printed. -/
def Progress.output (p : Progress) : Octets := p.printed.reverse.flatten

end Format

end CommandBot.Shell
