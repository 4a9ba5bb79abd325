/-
**Files and limits.**

* `CommandBot.Shell.Builtin.Directory.simplify` — a path without its steps to and fro;
* `CommandBot.Shell.Builtin.cd`, `CommandBot.Shell.Builtin.pwd` — **the working directory**;
* `CommandBot.Shell.Builtin.umask`, `CommandBot.Shell.Builtin.ulimit` — what new files may be, and
  what the shell may take;
* `CommandBot.Shell.Builtin.test`, `CommandBot.Shell.Builtin.bracket` — conditions.
-/

import CommandBot.Shell.Builtin.Basic
import CommandBot.Shell.Condition

set_option relaxedAutoImplicit false
set_option autoImplicit false

namespace CommandBot.Shell.Builtin

open Exec

/-! ### The working directory -/

namespace Directory

/-- The slashes at the beginning of an absolute path: one, or just two. -/
def root (path : Octets) : Octets :=
  match path with
  | '/' :: '/' :: '/' :: _ => ['/']
  | '/' :: '/' :: _ => ['/', '/']
  | _ => ['/']

/-- The names on the way, the last first, after one more part of a path. -/
def step (names : List Octets) (part : Octets) : List Octets :=
  if part = [] ∨ part = ['.'] then names
  else if part = ['.', '.'] then names.drop 1
  else part :: names

/-- **A path without its steps to and fro**, as it is seen from a directory. -/
def simplify (directory path : Octets) : Octets :=
  let base := if FileTree.isAbsolute path then [] else FileTree.parts directory
  let root := root (if FileTree.isAbsolute path then path else directory)
  let names := ((base ++ FileTree.parts path).foldl step []).reverse
  root ++ ['/'].intercalate names

/-- A path that does not begin where the shell works, or that says so itself. -/
def isFixed (path : Octets) : Bool :=
  FileTree.isAbsolute path ||
    match path.takeWhile fun c => c != '/' with
    | ['.'] => true
    | ['.', '.'] => true
    | _ => false

/-- The paths at which a directory is looked for, and whether the path is shown then. -/
def candidates (search? : Option Octets) (path : Octets) : List (Octets × Bool) :=
  match search? with
  | none => []
  | some search =>
      (search.splitOn ':').map fun place =>
        if place.isEmpty then (path, false) else (place ++ '/' :: path, true)

end Directory

/-- The place of a directory at a path. -/
def directoryAt? (files : FileTree) (path : Octets) : Option FileTree.Place :=
  match files.find true path with
  | .ok place => if files.isDirectory place then some place else none
  | .error _ => none

/-- The shell works in a directory from now on, whose path is kept as it was given or not. -/
def enter (place : FileTree.Place) (path? : Option Octets) : Exec Unit := do
  let before := (← own).directory
  let path := path?.getD (FileTree.pathOf place)
  modify fun m => { m with streams.files.here := place }
  Parameter.assign "OLDPWD".toList before .exported
  change fun o => { o with
    directory := path
    located := ⟨o.located.entries.map fun (name, l) => (name, { l with isStale := true })⟩ }
  Parameter.assign "PWD".toList path .exported

/-- The shell works in the directory at a path from now on; the result tells whether there is one. -/
def tryEnter (isPhysical : Bool) (path : Octets) : Exec Bool := do
  let logical := Directory.simplify (← own).directory path
  let path? := if isPhysical then none else some logical
  match directoryAt? (← files) (path?.getD path) with
  | none => return false
  | some place => do
      enter place path?
      return true

/-- The last of two letters that was chosen is the one for places without links. -/
def isPhysical (chosen : List Choice) : Bool := (chosen.getLast?.map Prod.fst) == some 'P'

/-- Where the working directory shall be, and whether it is shown. -/
def destination : List Octets → Exec (Octets × Bool)
  | [] => do return ((← Parameter.named? "HOME").getD [], false)
  | ['-'] :: _ => do return ((← Parameter.named? "OLDPWD").getD [], true)
  | path :: _ => return (path, false)

/-- **The working directory is changed.** -/
def cd : Action := fun words => do
  let (chosen, words) ← options "LP" words
  let (given, isShown) ← destination words
  let path := if given.isEmpty then ['.'] else given
  let search? ← if Directory.isFixed given then pure none else Parameter.named? "CDPATH"
  let files ← files
  let found? := (Directory.candidates search? path).find? fun (path, _) =>
    (directoryAt? files path).isSome
  let (path, isFound) := found?.getD (path, false)
  if !(← tryEnter (isPhysical chosen) path) then fail ("can't cd to ".toList ++ given)
  if isShown || isFound then print ((← own).directory ++ ['\n'])
  return 0

/-- **The working directory is printed.** -/
def pwd : Action := fun words => do
  let (chosen, _) ← options "LP" words
  let here := FileTree.pathOf (← files).here
  let named := (← own).directory
  print ((if isPhysical chosen then here else named) ++ ['\n'])
  return 0

/-! ### Masks -/

namespace Mask

/-- All permissions. -/
def all : Nat := 0o777

/-- The permissions that a mask leaves, or the mask that leaves permissions. -/
def complement (n : Nat) : Nat := all - n % (all + 1)

/-- The classes of users that a letter names. -/
def classes? : Char → Option Nat
  | 'a' => some 0o111
  | 'u' => some 0o100
  | 'g' => some 0o010
  | 'o' => some 0o001
  | _ => none

/-- What a letter permits to one class of users. -/
def permission? (current : Nat) : Char → Option Nat
  | 'r' => some 4
  | 'w' => some 2
  | 'x' => some 1
  | 'u' => some (current / 64 % 8)
  | 'g' => some (current / 8 % 8)
  | 'o' => some (current % 8)
  | 'X' => some (if current &&& 0o111 = 0 then 0 else 1)
  | 's' => some 0
  | _ => none

/-- What letters stand for together. -/
def join (values : List (Option Nat)) : Nat := values.foldl (fun n v => n ||| v.getD 0) 0

/-- Permissions after a sign with some more. -/
def apply (sign : Char) (classes more current : Nat) : Nat :=
  let more := more * classes
  match sign with
  | '-' => current &&& complement more
  | '=' => more ||| (current &&& complement (7 * classes))
  | _ => current ||| more

/-- A sign that changes permissions. -/
def isSign (c : Char) : Bool := c == '=' || c == '+' || c == '-'

/-- The permissions that a text makes of those that are there, in so many steps at most. -/
def read? (before : Nat) : Nat → Nat → Octets → Nat → Option Nat
  | 0, _, _, _ => none
  | _, _, [], current => some current
  | fuel + 1, classes, s, current =>
      let who := s.takeWhile fun c => (classes? c).isSome
      let rest := s.drop who.length
      let named := classes ||| join (who.map classes?)
      let classes := if named = 0 then 0o111 else named
      match rest with
      | [] => some current
      | sign :: rest =>
          if !isSign sign then none
          else
            let letters := rest.takeWhile fun c => (permission? before c).isSome
            let current := apply sign classes (join (letters.map (permission? before))) current
            match rest.drop letters.length with
            | ',' :: rest => read? before fuel 0 rest current
            | c :: rest => if isSign c then read? before fuel classes (c :: rest) current else none
            | [] => some current

/-- The letters of the permissions of one class of users. -/
def letters (n : Nat) : Octets :=
  (if 4 ≤ n % 8 then ['r'] else []) ++ (if 2 ≤ n % 4 then ['w'] else []) ++
    if n % 2 = 1 then ['x'] else []

/-- The permissions that a mask leaves, in letters. -/
def text (mask : Nat) : Octets :=
  let n := complement mask
  "u=".toList ++ letters (n / 64) ++ ",g=".toList ++ letters (n / 8) ++ ",o=".toList ++ letters n

end Mask

/-- The mask that a word gives. -/
def maskOf (before : Nat) (word : Octets) : Exec Nat := do
  if (word.head?.map Char.isDigit) == some true then
    if word.all fun c => '0' ≤ c && c ≤ '7' then
      return Numeral.value 8 word % (Mask.all + 1)
    else refuseNumber word
  else
    let permissions := Mask.complement before
    match Mask.read? permissions (2 * word.length + 2) 0 word permissions with
    | some n => return Mask.complement n
    | none => fail ("Illegal mode: ".toList ++ word)

/-- **The mask of new files is set, or printed.** -/
def umask : Action := fun words => do
  let (chosen, words) ← options "S" words
  let before := (← own).mask
  match words with
  | [] => do
      let octal := Nat.toDigits 8 before
      print (if chosen.isEmpty then List.replicate (4 - octal.length) '0' ++ octal ++ ['\n']
        else Mask.text before ++ ['\n'])
  | word :: _ => do
      let mask ← maskOf before word
      change fun o => { o with mask }
  return 0

/-! ### Limits -/

/-- A resource with a limit. -/
structure Resource where
  letter : Char
  name : String
  /-- The limits at the start. -/
  start : Limit

/-- The resources with limits, in order. -/
def resources : List Resource := [
  ⟨'t', "time(seconds)", ⟨none, none⟩⟩,
  ⟨'f', "file(blocks)", ⟨none, none⟩⟩,
  ⟨'d', "data(kbytes)", ⟨none, none⟩⟩,
  ⟨'s', "stack(kbytes)", ⟨some 8192, none⟩⟩,
  ⟨'c', "coredump(blocks)", ⟨some 0, none⟩⟩,
  ⟨'m', "memory(kbytes)", ⟨none, none⟩⟩,
  ⟨'l', "locked memory(kbytes)", ⟨some 8192, some 8192⟩⟩,
  ⟨'p', "process", ⟨some 128619, some 128619⟩⟩,
  ⟨'n', "nofiles", ⟨some 20000, some 20000⟩⟩,
  ⟨'v', "vmemory(kbytes)", ⟨none, none⟩⟩,
  ⟨'w', "locks", ⟨none, none⟩⟩,
  ⟨'r', "rtprio", ⟨some 0, some 0⟩⟩]

/-- The limits of a resource. -/
def limitOf (o : Own) (letter : Char) : Limit :=
  match o.limits.lookup letter with
  | some limit => limit
  | none => ((resources.find? fun r => r.letter == letter).map Resource.start).getD ⟨none, none⟩

/-- A limit as it is printed. -/
def limitText (isHard : Bool) (limit : Limit) : Octets :=
  match if isHard then limit.hard else limit.soft with
  | some n => n.repr.toList ++ ['\n']
  | none => "unlimited\n".toList

/-- One limit is greater than another; there may be none at all. -/
def exceeds : Option Nat → Option Nat → Bool
  | none, some _ => true
  | some a, some b => b < a
  | _, none => false

/-- The limit that a word gives. -/
def readLimit (word : Octets) : Exec (Option Nat) := do
  if word = "unlimited".toList then return none
  if !word.all Char.isDigit then fail "bad number".toList
  return some (Numeral.value 10 word)

/-- A limit is set.  The hard one can only be lowered, and bounds the soft one. -/
def setLimit (letter : Char) (soft hard : Bool) (value : Option Nat) : Exec Unit := do
  let before := limitOf (← own) letter
  let after : Limit := ⟨if soft then value else before.soft, if hard then value else before.hard⟩
  if exceeds after.soft after.hard then fail "error setting limit (Invalid argument)".toList
  if exceeds after.hard before.hard then
    fail "error setting limit (Operation not permitted)".toList
  change fun o => { o with limits := (letter, after) :: o.limits }

/-- **The limits of the shell are set, or printed.** -/
def ulimit : Action := fun words => do
  let (chosen, words) ← options "HSatfdscmlpnvwr" words
  let letters := chosen.map Prod.fst
  let how := ((letters.filter fun c => c == 'H' || c == 'S').getLast?).getD 'B'
  let all := letters.contains 'a'
  let letter := ((letters.filter fun c => !"HSa".toList.contains c).getLast?).getD 'f'
  let isHard := how == 'H'
  match words with
  | [] => do
      let o ← own
      if all then
        for r in resources do
          print ((Switches.fill 20 r.name).toList ++ ' ' :: limitText isHard (limitOf o r.letter))
      else print (limitText isHard (limitOf o letter))
  | [word] => do
      if all then fail "too many arguments".toList
      setLimit letter (how != 'H') (how != 'S') (← readLimit word)
  | _ => fail "too many arguments".toList
  return 0

/-! ### Conditions -/

/-- What something opened leads to. -/
def targetOfChannel (files : FileTree) : Channel → Condition.Target
  | .sink _ => .pipe
  | .source _ => .pipe
  | .file place =>
      match files.entry? place with
      | some (.file data) => .file data.isEmpty false
      | _ => .file true false
  | .directory => .directory
  | .device _ => .device

/-- What lies at a place. -/
def targetAt? (m : Machine) (place : FileTree.Place) : Option Condition.Target :=
  let files := m.streams.files
  match files.entry? place with
  | some (.file data) => some (.file data.isEmpty false)
  | some .program => some (.file false true)
  | some (.device (.descriptor n)) =>
      ((m.own.descriptors.lookup n).bind fun i => m.streams.opened[i]?).map fun o =>
        targetOfChannel files o.channel
  | some (.device _) => some .device
  | _ => if files.isDirectory place then some .directory else none

/-- What conditions can ask of the files. -/
def surroundings (m : Machine) : Condition.Surroundings where
  target? path := (m.streams.files.resolve true path).toOption.bind (targetAt? m)
  isLink path :=
    match (m.streams.files.resolve false path).toOption.bind m.streams.files.entry? with
    | some (.link _) => true
    | _ => false
  place? path := (m.streams.files.find true path).toOption
  changed? path := (m.streams.files.find true path).toOption.map fun place =>
    ((m.streams.files.item? place).map FileTree.Item.changed).getD 0
  isTerminal _ := false

/-- **A condition is looked at.** -/
def test : Action := fun words => do
  match Condition.holds (surroundings (← get)) words with
  | .ok b => return yes b
  | .error fault => fail fault.text

/-- The same between brackets. -/
def bracket : Action := fun words => do
  if words.getLast? = some [']'] then test words.dropLast else fail "missing ]".toList

end CommandBot.Shell.Builtin
