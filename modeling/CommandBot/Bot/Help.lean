/-
**The texts of the help command.**

* `CommandBot.Help.listing` — all commands with their usage;
* `CommandBot.Help.details` — one command with its verbs.
-/

import CommandBot.Registry

set_option relaxedAutoImplicit false
set_option autoImplicit false

namespace CommandBot.Help

/-- The version of the bot. -/
def version : String := "0.1.0"

/-- What stands above the list of commands. -/
def header : String := "**Sunbot " ++ version ++ "**\n\n__Commands:__\n\n"

/-- A text shown as code. -/
def code (text : String) : String := "`" ++ text ++ "`"

/-- The two lines of a command in the list. -/
def entry (lead : String) (c : Command) : String := c.name ++ "\n" ++ code (lead ++ c.usage) ++ "\n"

/-- **All commands with their usage**, in the order of the registry. -/
def listing (registry : Registry) (lead : String) : String :=
  header ++ String.join (registry.commands.map (entry lead))

/-- The verbs of a command, each with the prefix before it. -/
def verbList (lead : String) (verbs : List String) : String :=
  ", ".intercalate (verbs.map fun verb => code (lead ++ verb))

/-- **One command with its verbs.** -/
def details (c : Command) (lead : String) : String :=
  "**" ++ c.name ++ "**\n" ++ c.description ++ "\n\nUsage:\n" ++ code (lead ++ c.usage) ++
    "\nVerbs:\n" ++ verbList lead c.verbs

end CommandBot.Help
