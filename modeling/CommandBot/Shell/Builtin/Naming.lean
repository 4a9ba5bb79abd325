/-
**Parameters, arguments and aliases.**

* `CommandBot.Shell.Builtin.declare` — parameters are exported or protected;
* `CommandBot.Shell.Builtin.unset`, `CommandBot.Shell.Builtin.declareLocals` — parameters are unset,
  or belong to a function;
* `CommandBot.Shell.Builtin.set`, `CommandBot.Shell.Builtin.shift` — **switches and arguments**;
* `CommandBot.Shell.Builtin.getopts` — the next option among the arguments;
* `CommandBot.Shell.Builtin.aliasAll`, `CommandBot.Shell.Builtin.unaliasAll` — aliases.
-/

import CommandBot.Shell.Builtin.Basic

set_option relaxedAutoImplicit false
set_option autoImplicit false

namespace CommandBot.Shell.Builtin

open Exec

/-! ### Parameters -/

/-- A parameter that is there gets a mark; any other is made. -/
def declareOne (marks : Parameter.Marks) (word : Octets) : Exec Unit := do
  match Parameter.split word with
  | (name, some value) => Parameter.assign name value marks
  | (name, none) => do
      match ← Parameter.find? name with
      | some v =>
          Parameter.place name (some { v with
            isExported := v.isExported || marks.exports
            isReadOnly := v.isReadOnly || marks.protects })
      | none => Parameter.put (← Parameter.checkName name) none marks

/-- **Parameters are exported or protected**; without any, those that are so are listed. -/
def declare (command : String) (marks : Parameter.Marks) : Action := fun words => do
  let (chosen, names) ← options "p" words
  if chosen.isEmpty && !names.isEmpty then
    for name in names do declareOne marks name
  else
    print (← Parameter.listing command.toList fun v =>
      if marks.exports then v.isExported else v.isReadOnly)
  return 0

/-- **Parameters are unset**, or functions. -/
def unset : Action := fun words => do
  let (chosen, names) ← options "vf" words
  if (chosen.getLast?.map Prod.fst) == some 'f' then
    change fun o =>
      { o with functions := names.foldl (fun t name => t.erase (String.ofList name)) o.functions }
  else
    for name in names do Parameter.unset name
  return 0

/-- **Parameters belong to the function that runs.** -/
def declareLocals : Action := fun words => do
  if (← own).locals.isEmpty then fail "not in a function".toList
  for word in words do Parameter.localize word .none
  return 0

/-! ### Switches -/

/-- A switch is turned on or off.  Of two ways to edit a line only one is on. -/
def turn (on : Bool) (switch : Switch) (byLetter : Bool) : Exec Unit := do
  change fun o =>
    let switches := o.switches.turn switch on
    { o with switches :=
        if on && byLetter && switch == .vi then switches.turn .emacs false
        else if on && byLetter && switch == .emacs then switches.turn .vi false
        else switches }

/-- The switch of a name is turned on or off; without a name all switches are listed. -/
def turnNamed (on : Bool) : Option Octets → Exec Unit
  | none => do
      let switches := (← own).switches
      print (if on then switches.table else switches.script).toList
  | some name =>
      match Switch.ofName? name with
      | some switch => turn on switch false
      | none => fail ("Illegal option -o ".toList ++ name)

/-- Letters turn switches on or off; some of them take a name from the other arguments. -/
def turnLetters (on : Bool) : Octets → List Octets → Exec (List Octets)
  | [], rest => return rest
  | 'o' :: more, rest => do
      turnNamed on rest.head?
      turnLetters on more (rest.drop 1)
  | c :: more, rest => do
      match Switch.ofLetter? c with
      | some switch => turn on switch true
      | none => fail ("Illegal option -".toList ++ [c])
      turnLetters on more rest

/-- The arguments of the script are replaced. -/
def setArguments (arguments : List Octets) : Exec Unit :=
  change fun o => { o with arguments, optionIndex := some 1, optionOffset := none }

/-- Switches are turned as words say, so many at most; the result are the other arguments. -/
def turnAll : Nat → List Octets → Exec (List Octets)
  | 0, words => return words
  | fuel + 1, words => do
      match words with
      | ['-'] :: rest => do
          turn false .xtrace false
          turn false .verbose false
          return rest
      | ['-', '-'] :: rest => do
          if rest.isEmpty then setArguments []
          return rest
      | ('-' :: letters) :: rest => do turnAll fuel (← turnLetters true letters rest)
      | ('+' :: letters) :: rest => do turnAll fuel (← turnLetters false letters rest)
      | words => return words

/-- A terminal is needed for one of the switches, and there is none. -/
def checkMonitor : Exec Unit := do
  if ← isOn .monitor then
    complain "can't access tty; job control turned off".toList
    turn false .monitor false

/-- **Switches are turned and the arguments of the script are replaced.**  Without anything all
parameters are listed. -/
def set : Action := fun words => do
  if words.isEmpty then
    print (← Parameter.listing [] fun v => v.value?.isSome)
  else
    let rest ← turnAll (words.length + 1) words
    checkMonitor
    if !rest.isEmpty then setArguments rest
  return 0

/-! ### Arguments -/

/-- **The first arguments of the script are dropped.** -/
def shift : Action := fun words => do
  let n ← match words with
    | [] => pure 1
    | word :: _ => number word
  let arguments := (← own).arguments
  if arguments.length < n then fail "can't shift that many".toList
  setArguments (arguments.drop n)
  return 0

/-- An option among some arguments. -/
structure Found where
  letter : Char
  /-- The number of the argument that is looked at next. -/
  index : Nat
  /-- What remains of the argument before it. -/
  remains : Option Nat
  argument : Option Octets
  complaint : Octets
  status : Nat

/-- What follows a letter in the list of those that are known; a colon after another letter belongs to
that one. -/
def afterLetter? (c : Char) : Octets → Option Octets
  | d :: ':' :: rest => if d = c then some (':' :: rest) else afterLetter? c rest
  | d :: rest => if d = c then some rest else afterLetter? c rest
  | [] => none

/-- What is found of an option whose letter was read: the place after the letter is given. -/
def findAt (letters : Octets) (arguments : List Octets) (index offset : Nat) (c : Char) : Found :=
  let isQuiet := letters.head? == some ':'
  let word := (arguments[index - 2]?).getD []
  match afterLetter? c letters with
  | none =>
      ⟨'?', index, some offset, if isQuiet then some [c] else none,
        if isQuiet then [] else "Illegal option -".toList ++ [c, '\n'], 0⟩
  | some (':' :: _) =>
      if offset < word.length then ⟨c, index, none, some (word.drop offset), [], 0⟩
      else
        match arguments[index - 1]? with
        | some argument => ⟨c, index + 1, none, some argument, [], 0⟩
        | none =>
            if isQuiet then ⟨':', index, none, some [c], [], 0⟩
            else ⟨'?', index, none, none, "No arg for -".toList ++ c :: " option\n".toList, 0⟩
  | some _ => ⟨c, index, some offset, some [], [], 0⟩

/-- The next option among some arguments, from an argument and a place in the one before it on. -/
def find (letters : Octets) (arguments : List Octets) (index : Nat) (offset? : Option Nat) :
    Found :=
  let none : Found := ⟨'?', index, .none, .none, [], 1⟩
  let before := if index ≤ 1 then [] else (arguments[index - 2]?).getD []
  match offset?.bind fun n => before[n]?, offset? with
  | some c, some n => findAt letters arguments index (n + 1) c
  | _, _ =>
      match arguments[index - 1]? with
      | some ['-', '-'] => { none with index := index + 1 }
      | some ('-' :: c :: _) => findAt letters arguments (index + 1) 2 c
      | _ => none

/-- **The next option among the arguments** is put into a parameter. -/
def getopts : Action := fun words => do
  let (letters, name, given) ← match words with
    | letters :: name :: given => pure (letters, name, given)
    | _ => fail "Usage: getopts optstring var [arg...]".toList
  let o ← own
  let arguments := if given.isEmpty then o.arguments else given
  let (index, offset?) := match o.optionIndex with
    | some n => if n ≤ arguments.length + 1 then (n, o.optionOffset) else (1, none)
    | none => (1, none)
  change fun o => { o with optionIndex := none }
  let found := find letters arguments index offset?
  writeError found.complaint
  if found.status = 0 then
    match found.argument with
    | some argument => Parameter.set "OPTARG".toList argument
    | none => Parameter.unset "OPTARG".toList
  Parameter.set "OPTIND".toList (Numeral.text found.index)
  change fun o => { o with optionIndex := none }
  Parameter.set name [found.letter]
  change fun o => { o with optionIndex := some found.index, optionOffset := found.remains }
  return found.status

/-! ### Aliases -/

/-- The place of an alias in the order in which aliases are listed. -/
def aliasRank (name : Octets) : Nat :=
  ((name.headD '\x00').toNat * 16 + (name.map Char.toNat).foldr (· + ·) 0) % 39

/-- An alias as it is listed. -/
def aliasText (name value : Octets) : Octets := name ++ '=' :: Parameter.quote value ++ ['\n']

/-- All aliases as they are listed. -/
def aliasTexts (aliases : Table Octets) : Octets :=
  (List.range 39).flatMap fun rank =>
    (aliases.entries.filter fun e => aliasRank e.1.toList == rank).flatMap fun e =>
      aliasText e.1.toList e.2

/-- The name and the value in a word that sets an alias. -/
def aliasParts (word : Octets) : Octets × Option Octets :=
  match word with
  | [] => ([], none)
  | c :: rest =>
      let (name, value?) := Parameter.split rest
      (c :: name, value?)

/-- An alias is set, or listed; the result tells whether it is there. -/
def aliasOne (word : Octets) : Exec Bool := do
  match aliasParts word with
  | (name, some value) => do
      change fun o => { o with aliases := o.aliases.set (String.ofList name) value }
      return true
  | (name, none) => do
      match (← own).aliases.get? (String.ofList name) with
      | some value => do
          print (aliasText name value)
          return true
      | none => do
          writeError ("alias: ".toList ++ name ++ " not found\n".toList)
          return false

/-- **Aliases are set, or listed.** -/
def aliasAll : Action := fun words => do
  if words.isEmpty then
    print (aliasTexts (← own).aliases)
    return 0
  let known ← words.mapM aliasOne
  return yes (known.all id)

/-- An alias is removed; the result tells whether it was there. -/
def unaliasOne (name : Octets) : Exec Bool := do
  let isKnown := (← own).aliases.contains (String.ofList name)
  change fun o => { o with aliases := o.aliases.erase (String.ofList name) }
  if !isKnown then writeError ("unalias: ".toList ++ name ++ " not found\n".toList)
  return isKnown

/-- **Aliases are removed.** -/
def unaliasAll : Action := fun words => do
  if (words.headD []).take 2 = ['-', 'a'] then
    change fun o => { o with aliases := .empty }
    return 0
  let (_, names) ← options "a" words
  let known ← names.mapM unaliasOne
  return yes (known.all id)

end CommandBot.Shell.Builtin
