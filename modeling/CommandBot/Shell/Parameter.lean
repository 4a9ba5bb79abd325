/-
**Parameters.**

A parameter with a name may be set, exported and protected.  What a function changes of parameters
that belong to it is restored at its end.

* `CommandBot.Shell.Parameter.get?` — the value of a parameter;
* `CommandBot.Shell.Parameter.assign` — **a parameter gets a value**, unless it cannot be changed;
* `CommandBot.Shell.Parameter.unset` — a parameter loses its value;
* `CommandBot.Shell.Parameter.localize` — a parameter belongs to a function;
* `CommandBot.Shell.Parameter.restore` — what belongs to functions is restored;
* `CommandBot.Shell.Parameter.listing` — the parameters as commands that would set them.
-/

import CommandBot.Shell.Field
import CommandBot.Shell.Machine

set_option relaxedAutoImplicit false
set_option autoImplicit false

namespace CommandBot.Shell.Parameter

open Exec

/-! ### Values -/

/-- The parameter of a name. -/
def find? (name : Octets) : Exec (Option Variable) :=
  return (← own).variableTable.get? (String.ofList name)

/-- **The value of a parameter.** -/
def get? (name : Octets) : Exec (Option Octets) := return (← find? name).bind Variable.value?

/-- The value of a parameter whose name is written out. -/
def named? (name : String) : Exec (Option Octets) := get? name.toList

/-- The octets that part fields. -/
def separators : Exec Octets := return (← named? "IFS").getD Separators.standard

/-! ### Changes -/

/-- The parameters with one in its place, or without it. -/
def place (name : Octets) (v : Option Variable) : Exec Unit :=
  change fun o =>
    { o with variableTable := match v with
        | some v => o.variableTable.set (String.ofList name) v
        | none => o.variableTable.erase (String.ofList name) }

/-- The search for options begins where a parameter says, and that for commands begins anew if the
directories change. -/
def notice (name : Octets) (value : Octets) : Exec Unit := do
  if name = "OPTIND".toList then
    let n ← number value
    change fun o => { o with optionIndex := some (max n 1), optionOffset := none }
  if name = "PATH".toList then change fun o => { o with located := .empty }

/-- What is asked of a parameter beside its value. -/
structure Marks where
  exports : Bool
  protects : Bool
  keeps : Bool

namespace Marks

/-- Nothing is asked. -/
def none : Marks := ⟨false, false, false⟩

/-- The parameter is exported. -/
def exported : Marks := ⟨true, false, false⟩

/-- Nothing is asked. -/
def isNone (m : Marks) : Bool := !m.exports && !m.protects && !m.keeps

end Marks

/-- A parameter gets a value or loses it, whatever its name is. -/
def put (name : Octets) (value? : Option Octets) (marks : Marks) : Exec Unit := do
  let marks := { marks with exports := marks.exports || (← isOn .allexport) }
  match ← find? name with
  | some v => do
      if v.isReadOnly then fail (name ++ ": is read only".toList)
      notice name (value?.getD [])
      if value?.isNone && marks.isNone && !v.isKept then place name none
      else
        place name (some ⟨value?, v.isExported || marks.exports, v.isReadOnly || marks.protects,
          v.isKept || marks.keeps⟩)
  | none =>
      if value?.isSome || !marks.isNone then
        place name (some ⟨value?, marks.exports, marks.protects, marks.keeps⟩)

/-- The name that stands before a sign of equality, and what follows the sign. -/
def split (word : Octets) : Octets × Option Octets :=
  let (name, rest) := word.span fun c => c != '='
  match rest with
  | _ :: value => (name, some value)
  | [] => (name, none)

/-- What a complaint takes for the name in a word: all up to the first sign of equality. -/
def checkName (word : Octets) : Exec Octets := do
  let (name, _) := split word
  if !isName name then fail (name ++ ": bad variable name".toList)
  return name

/-- **A parameter gets a value**, unless it cannot be changed. -/
def assign (name value : Octets) (marks : Marks) : Exec Unit := do
  put (← checkName name) (some value) marks

/-- A parameter gets a value, and nothing else is asked. -/
def set (name value : Octets) : Exec Unit := assign name value .none

/-- **A parameter loses its value**, and all that was asked of it. -/
def unset (name : Octets) : Exec Unit := do put (← checkName name) none .none

/-! ### Functions -/

/-- Something is to be restored when the innermost function ends. -/
def save (saved : Saved) : Exec Unit :=
  change fun o =>
    { o with locals := match o.locals with
        | frame :: outer => (saved :: frame) :: outer
        | [] => [[saved]] }

/-- **A parameter belongs to the innermost function**, and gets a value if one is given. -/
def localize (word : Octets) (marks : Marks) : Exec Unit := do
  if word = ['-'] then save (.switches (← own).switches)
  else
    let (name, value?) := split word
    match ← find? name with
    | none => do
        match value? with
        | some _ => put name value? { marks with keeps := true }
        | none => put (← checkName name) none { marks with keeps := true }
        save (.variable name none)
    | some v => do
        place name (some { v with isKept := true })
        if value?.isSome then put name value? marks
        save (.variable name (some v))

/-- Something is restored. -/
def undo : Saved → Exec Unit
  | .switches before => change fun o => { o with switches := before }
  | .variable name none => place name none
  | .variable name (some v) => do
      notice name (v.value?.getD [])
      place name (some v)

/-- What belongs to functions is restored, until so many are left. -/
def restore (depth : Nat) : Exec Unit := do
  let locals := (← own).locals
  let count := locals.length - depth
  change fun o => { o with locals := locals.drop count }
  for saved in (locals.take count).flatten do undo saved

/-! ### Listings -/

/-- A text between single quotes; the single quotes in it stand between double quotes. -/
def quoteIn : Nat → Octets → Octets
  | 0, _ => []
  | fuel + 1, s =>
      let (plain, rest) := s.span fun c => c != '\''
      let (quotes, rest) := rest.span fun c => c == '\''
      let first := '\'' :: plain ++ ['\'']
      if quotes.isEmpty then first
      else
        let quoted := first ++ '"' :: quotes ++ ['"']
        if rest.isEmpty then quoted else quoted ++ quoteIn fuel rest

/-- A text as a script would quote it. -/
def quote (s : Octets) : Octets := quoteIn (s.length + 1) s

/-- Some parameters with one more in its place. -/
def insert (entry : Octets × Variable) : List (Octets × Variable) → List (Octets × Variable)
  | [] => [entry]
  | e :: rest => if Octets.isBefore entry.1 e.1 then entry :: e :: rest else e :: insert entry rest

/-- **The parameters as commands that would set them**, in order. -/
def listing (command : Octets) (admits : Variable → Bool) : Exec Octets := do
  let entries := (← own).variableTable.entries.filter fun e => admits e.2
  let sorted := (entries.map fun e => (e.1.toList, e.2)).foldr insert []
  let lead := if command.isEmpty then [] else command ++ [' ']
  return sorted.flatMap fun (name, v) =>
    lead ++ name ++ (match v.value? with
      | some value => '=' :: quote value
      | none => []) ++ ['\n']

end CommandBot.Shell.Parameter
