/-
**The words of a search.**

Outside of channels where anything may be shown, a search asks for safe images only.

* `CommandBot.Search.query` — the query for some words;
* `CommandBot.Search.isIdle` — words that say nothing;
* `CommandBot.Search.pick?` — the address that a draw picks.
-/

import CommandBot.Text.Blank

set_option relaxedAutoImplicit false
set_option autoImplicit false

namespace CommandBot.Search

/-- The tag of safe images. -/
def safetyTag : String := "safe"

/-- The arguments of a command as one line. -/
def line (args : List String) : String := " ".intercalate args

/-- **The query for some words.** -/
def query (args : List String) (nsfw : Bool) : String :=
  if nsfw then line args else line args ++ ", " ++ safetyTag

/-- No argument has anything but white space. -/
def isIdle (args : List String) : Bool := args.all fun arg => (Text.trim arg).isEmpty

/-- The address that a draw picks, if there is one to pick. -/
def pick? (draw : Nat) (urls : List String) : Option String := urls[draw % urls.length]?

end CommandBot.Search
