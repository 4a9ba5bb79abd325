/-
**Patterns of paths.**

A pattern of paths is followed directory by directory.  A part without signs is taken as it is; in a
part with signs every name of the directory that fits it is tried, except that a name with a dot at
its beginning wants the dot to be written.

* `CommandBot.Shell.Pathname.parts` — the parts of a pattern of paths;
* `CommandBot.Shell.Pathname.hasSigns` — whether a part is more than a name;
* `CommandBot.Shell.Pathname.matching` — **the paths that fit a pattern**, in order.
-/

import CommandBot.FileTree
import CommandBot.Shell.Pattern

set_option relaxedAutoImplicit false
set_option autoImplicit false

namespace CommandBot.Shell.Pathname

/-! ### Parts -/

/-- The parts of a pattern between slashes, whether a backslash stands before the slash or not. -/
def parts : Octets → List Octets
  | [] => [[]]
  | '/' :: rest => [] :: parts rest
  | '\\' :: '/' :: rest => [] :: parts rest
  | '\\' :: c :: rest =>
      match parts rest with
      | first :: others => ('\\' :: c :: first) :: others
      | [] => [['\\', c]]
  | c :: rest =>
      match parts rest with
      | first :: others => (c :: first) :: others
      | [] => [[c]]

/-- Whether a bracket is closed later. -/
def isClosed : Nat → Octets → Bool
  | 0, _ => false
  | fuel + 1, s =>
      let s := if s.head? = some '\\' then s.drop 1 else s
      match s with
      | [] => false
      | _ :: rest => if rest.head? = some ']' then true else isClosed fuel rest

/-- **Whether a part is more than a name.** -/
def hasSigns : Octets → Bool
  | [] => false
  | '\\' :: _ :: rest => hasSigns rest
  | '*' :: _ => true
  | '?' :: _ => true
  | '[' :: rest =>
      isClosed rest.length (if rest.head? = some '!' then rest.drop 1 else rest) || hasSigns rest
  | _ :: rest => hasSigns rest

/-- A part without the backslashes in it. -/
def plain : Octets → Octets
  | '\\' :: c :: rest => c :: plain rest
  | c :: rest => c :: plain rest
  | [] => []

/-! ### Paths -/

/-- The part wants a dot at the beginning of a name. -/
def wantsDot : Octets → Bool
  | '\\' :: '.' :: _ => true
  | '.' :: _ => true
  | _ => false

/-- The names in a directory that fit a part. -/
def namesFitting (files : FileTree) (directory part : Octets) : List Octets :=
  match files.find true (if directory.isEmpty then ['.'] else directory) with
  | .error _ => []
  | .ok place =>
      if files.isDirectory place then
        let names := [['.'], ['.', '.']] ++ files.names place
        names.filter fun name =>
          (name.head? != some '.' || wantsDot part) && Pattern.fits part name
      else []

/-- Something lies at a path, which may be a link. -/
def isThere (files : FileTree) (path : Octets) : Bool :=
  match files.find false path with
  | .ok _ => true
  | .error _ => false

/-- The paths that begin in a certain way and go on as the parts say. -/
def follow (files : FileTree) : Octets → List Octets → List Octets
  | path, [] => if isThere files path then [path] else []
  | path, part :: rest =>
      let slash : Octets := if rest.isEmpty then [] else ['/']
      if hasSigns part then
        (namesFitting files path part).flatMap fun name =>
          if rest.isEmpty then [path ++ name] else follow files (path ++ name ++ slash) rest
      else follow files (path ++ plain part ++ slash) rest

/-- Some texts with one more in its place. -/
def insert (text : Octets) : List Octets → List Octets
  | [] => [text]
  | t :: rest => if Octets.isBefore text t then text :: t :: rest else t :: insert text rest

/-- Texts in order. -/
def sort (texts : List Octets) : List Octets := texts.foldr insert []

/-- **The paths that fit a pattern**, in order; a pattern without signs fits nothing. -/
def matching (files : FileTree) (pattern : Octets) : List Octets :=
  let parts := parts pattern
  if parts.any hasSigns then sort (follow files [] parts) else []

end CommandBot.Shell.Pathname
