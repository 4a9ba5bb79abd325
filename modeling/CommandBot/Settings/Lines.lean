/-
**Lines of a settings file.**

A settings file has one setting a line, a name and a value parted by the first `=`.  White space
around either does not count.  Blank lines, lines that begin with `#` and lines without `=` say
nothing.  A byte order mark at the very start is dropped.

* `CommandBot.Settings.readLine?` — the setting of one line;
* `CommandBot.Settings.readLines` — **the settings of a file, in order**.
-/

import CommandBot.Text.Blank
import CommandBot.Text.Cut

set_option relaxedAutoImplicit false
set_option autoImplicit false

namespace CommandBot.Settings

open Text (trimChars splitAtFirst? dropMark)

/-- The setting of a line without outer white space, if it has one. -/
def readTrimmed? (line : List Char) : Option (String × String) :=
  if line.head? = some '#' then none
  else
    (splitAtFirst? '=' line).map fun parts =>
      (String.ofList (trimChars parts.1), String.ofList (trimChars parts.2))

/-- The setting of a line, if it has one. -/
def readLine? (line : List Char) : Option (String × String) := readTrimmed? (trimChars line)

/-- The settings of the lines of a text. -/
def readChars (s : List Char) : List (String × String) :=
  ((dropMark s).splitOn '\n').filterMap readLine?

/-- **The settings of a file**, in order, names that occur more than once included. -/
def readLines (content : String) : List (String × String) := readChars content.toList

end CommandBot.Settings
