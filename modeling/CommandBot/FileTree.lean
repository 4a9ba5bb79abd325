/-
**Files.**

A host keeps files in directories that lie in each other, from the root down.  A path is followed
one part at a time, from the root or from the directory that the program works in.  Every part but
the last must be a directory, and links are followed on the way.

* `CommandBot.FileTree` — the files of a host;
* `CommandBot.FileTree.Entry` — what may lie at a place;
* `CommandBot.FileTree.Fault` — why a path leads nowhere;
* `CommandBot.FileTree.join` — one path below another;
* `CommandBot.FileTree.resolve` — **the place that a path leads to**;
* `CommandBot.FileTree.read?` — the bytes of the file at a path;
* `CommandBot.FileTree.readText?` — its text, if the bytes are well-formed;
* `CommandBot.FileTree.add`, `CommandBot.FileTree.write` — the tree with one more entry, and with
  the bytes of a file replaced;
* `CommandBot.FileTree.names` — the names in a directory.
-/

import CommandBot.Text.Octets

set_option relaxedAutoImplicit false
set_option autoImplicit false

namespace CommandBot

namespace FileTree

/-! ### Entries -/

/-- A place: the names on the way down from the root. -/
abbrev Place := List Octets

/-- A file without contents of its own. -/
inductive Device where
  /-- It is empty, and what is written there is lost. -/
  | null
  /-- It never ends. -/
  | zero
  /-- It never ends, and takes nothing. -/
  | full
  /-- The terminal, which a bot does not have. -/
  | terminal
  /-- What a descriptor of the program leads to. -/
  | descriptor (number : Nat)
deriving DecidableEq, Repr

/-- What may lie at a place. -/
inductive Entry where
  | file (data : List UInt8)
  /-- A file that can be executed; nobody looks into it. -/
  | program
  | directory
  | device (device : Device)
  /-- A path to follow instead. -/
  | link (target : Octets)
deriving DecidableEq, Repr

/-- An entry with the time of its last change. -/
structure Item where
  entry : Entry
  changed : Nat
deriving DecidableEq, Repr

/-- Why a path leads nowhere, or not to what is wanted. -/
inductive Fault where
  | missing
  | notDirectory
  | isDirectory
  | taken
  | looping
  | tooLong
  | noDevice
deriving DecidableEq, Repr

/-- The wording of a fault. -/
def Fault.message : Fault → String
  | missing => "No such file or directory"
  | notDirectory => "Not a directory"
  | isDirectory => "Is a directory"
  | taken => "File exists"
  | looping => "Too many levels of symbolic links"
  | tooLong => "File name too long"
  | noDevice => "No such device or address"

end FileTree

/-- The files of a host. -/
structure FileTree where
  /-- The entries; the directories above them need not be listed. -/
  entries : List (FileTree.Place × FileTree.Item)
  /-- The directory that the program works in. -/
  here : FileTree.Place
  /-- The time. -/
  clock : Nat
deriving DecidableEq, Repr

namespace FileTree

/-! ### Places -/

/-- The parts of a path. -/
def parts (path : Octets) : List Octets := path.splitOn '/'

/-- A path that begins at the root. -/
def isAbsolute (path : Octets) : Bool := path.head? == some '/'

/-- A path below the one of a directory.  A slash is put between them unless the first path is empty
or ends with one; a path from the root stays as it is. -/
def join (directory path : String) : String :=
  if isAbsolute path.toList then path
  else
    match directory.toList.getLast? with
    | none => path
    | some last => if last = '/' then directory ++ path else directory ++ "/" ++ path

example : join "dir" "a" = "dir/a" ∧ join "dir/" "a" = "dir/a" ∧ join "" "a" = "a" := by decide

/-- The place where a path begins. -/
def origin (here : Place) (path : Octets) : Place := if isAbsolute path then [] else here

/-- The path of a place. -/
def pathOf (p : Place) : Octets := if p.isEmpty then ['/'] else p.flatMap fun name => '/' :: name

/-- The place that one part of a path leads to where there are no links. -/
def stepTo (p : Place) (part : Octets) : Place :=
  if part = [] ∨ part = ['.'] then p else if part = ['.', '.'] then p.dropLast else p ++ [part]

/-- What lies at a place. -/
def item? (t : FileTree) (p : Place) : Option Item := t.entries.lookup p

/-- The entry at a place. -/
def entry? (t : FileTree) (p : Place) : Option Entry := (t.item? p).map Item.entry

/-- A place is a directory if it is the root or the working directory, if it is listed as one, or if
something lies below it. -/
def isDirectory (t : FileTree) (p : Place) : Bool :=
  p.isPrefixOf t.here || t.entry? p == some .directory ||
    t.entries.any fun e => p.isPrefixOf e.1 && e.1 != p

/-- Something lies at a place. -/
def contains (t : FileTree) (p : Place) : Bool := t.isDirectory p || (t.item? p).isSome

/-! ### Paths -/

/-- The greatest length of a name. -/
def nameLimit : Nat := 255

/-- The number of links that a path may lead through. -/
def linkLimit : Nat := 40

/-- The place that the parts of a path lead to from a place, in so many steps at most.  The last part
need not exist; a link there is followed if that is wished. -/
def follow (t : FileTree) (throughLast : Bool) :
    Nat → Place → List Octets → Except Fault Place
  | 0, _, _ => .error .looping
  | _, p, [] => .ok p
  | fuel + 1, p, part :: rest =>
      if !t.isDirectory p then .error (if t.contains p then .notDirectory else .missing)
      else if nameLimit < part.length then .error .tooLong
      else
        let q := stepTo p part
        match t.entry? q with
        | some (.link target) =>
            if rest.isEmpty && !throughLast then .ok q
            else t.follow throughLast fuel (origin p target) (parts target ++ rest)
        | _ => t.follow throughLast fuel q rest

/-- **The place that a path leads to**, whether something lies there or not. -/
def resolve (t : FileTree) (throughLast : Bool) (path : Octets) : Except Fault Place :=
  if path.isEmpty then .error .missing
  else
    let parts := parts path
    t.follow throughLast (parts.length + linkLimit * nameLimit) (origin t.here path) parts

/-- The place of something that lies at a path. -/
def find (t : FileTree) (throughLast : Bool) (path : Octets) : Except Fault Place :=
  match t.resolve throughLast path with
  | .error fault => .error fault
  | .ok p => if t.contains p then .ok p else .error .missing

/-! ### Reading -/

/-- **The bytes of the file at a path.** -/
def read? (t : FileTree) (path : String) : Option (List UInt8) :=
  match t.resolve true (.ofText path.toList) with
  | .error _ => none
  | .ok p =>
      match t.entry? p with
      | some (.file data) => some data
      | some (.device .null) => some []
      | _ => none

/-- The text of the file at a path, if it is well-formed. -/
def readText? (t : FileTree) (path : String) : Option String :=
  match t.read? path with
  | none => none
  | some data => (Text.Utf8.decode? data).map String.ofList

/-- The names in a directory. -/
def names (t : FileTree) (p : Place) : List Octets :=
  ((t.here :: t.entries.map Prod.fst).filterMap fun q =>
    if p.isPrefixOf q then (q.drop p.length).head? else none).eraseDups

/-! ### Writing -/

/-- The tree with an entry in its place. -/
def put (t : FileTree) (p : Place) (entry : Entry) : FileTree :=
  { t with entries := (p, ⟨entry, t.clock⟩) :: t.entries.filter fun e => e.1 != p }

/-- The tree with the bytes of a file replaced. -/
def write (t : FileTree) (p : Place) (data : List UInt8) : FileTree := t.put p (.file data)

/-- The tree with a directory, unless something lies there. -/
def addDirectory (t : FileTree) (p : Place) : FileTree :=
  if t.contains p then t else t.put p .directory

/-- The tree with one more entry, at the place that a path names, and with all directories that the
path leads through. -/
def add (t : FileTree) (path : String) (entry : Entry) : FileTree :=
  let path : Octets := .ofText path.toList
  let names := parts path
  let start := origin t.here path
  let passed := (List.range names.length).map fun n => (names.take n).foldl stepTo start
  (passed.foldl addDirectory t).put (names.foldl stepTo start) entry

/-- The tree at a later time. -/
def later (t : FileTree) : FileTree := { t with clock := t.clock + 1 }

/-- A tree with nothing in it but a working directory. -/
def empty : FileTree := ⟨[], ["tmp".toList, "bot".toList, "data".toList], 0⟩

end FileTree

end CommandBot
