/-
**The settings file and the environment.**

At the start the bot looks for a settings file in four places and writes what the first readable
one says into the environment, over what was there.  The settings are then read from the
environment.  The environment refuses a variable without a name and a NUL in a name or value; such
a line of the file stops the program.

* `CommandBot.Settings.filePaths` — where the file may lie;
* `CommandBot.Settings.exportAll` — variables written into the environment;
* `CommandBot.Settings.load` — the environment after the file was read;
* `CommandBot.Settings.ofEnvironment` — the settings of an environment.
-/

import CommandBot.FileTree
import CommandBot.Settings.Basic
import CommandBot.Settings.Lines
import CommandBot.Table

set_option relaxedAutoImplicit false
set_option autoImplicit false

namespace CommandBot.Settings

/-! ### The environment -/

/-- The variables of the program. -/
abbrev Environment := Table String

/-- A variable that the environment does not take. -/
structure UnexportableVariable where
  name : String
  value : String
deriving DecidableEq, Repr

/-- Whether the environment takes a variable. -/
def isExportable (name value : String) : Bool :=
  !name.isEmpty && !name.toList.contains '=' && !name.toList.contains '\x00' &&
    !value.toList.contains '\x00'

/-- The environment with variables written into it, in order, unless it does not take one. -/
def exportAll (env : Environment) :
    List (String × String) → Except UnexportableVariable Environment
  | [] => .ok env
  | (name, value) :: rest =>
      if isExportable name value then exportAll (env.set name value) rest
      else .error ⟨name, value⟩

/-! ### The file -/

/-- The places where the settings file may lie, in the order in which they are tried. -/
def filePaths : List String :=
  ["botconfig.txt", "../botconfig.txt", "../../botconfig.txt", "src/botconfig.txt"]

/-- The first of some paths that holds a readable text, with that text. -/
def findFile? (files : FileTree) : List String → Option (String × String)
  | [] => none
  | path :: rest =>
      match files.readText? path with
      | some content => some (path, content)
      | none => findFile? files rest

/-- What a start of the program leaves: the file that was used, if any, and the environment. -/
structure Loaded where
  source : Option String
  environment : Environment
deriving DecidableEq, Repr

/-- **The environment after the settings file was read into it.** -/
def load (files : FileTree) (env : Environment) : Except UnexportableVariable Loaded :=
  match findFile? files filePaths with
  | none => .ok ⟨none, env⟩
  | some (path, content) =>
      -- only the first readable file counts, whatever it says
      match exportAll env (readLines content) with
      | .ok env => .ok ⟨some path, env⟩
      | .error refused => .error refused

/-- The settings of an environment. -/
def ofEnvironment (env : Environment) : Except SettingsError Settings := ofLookup env.get?

end CommandBot.Settings
