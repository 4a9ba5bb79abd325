/-
**The commands of the bot.**

* `CommandBot.Command.builtin` — the commands, in the order in which help lists them;
* `CommandBot.Registry.builtin` — their registry, with its index;
* `CommandBot.Registry.register_builtin` — the commands can be registered.
-/

import CommandBot.Registry

set_option relaxedAutoImplicit false
set_option autoImplicit false

namespace CommandBot

/-- **The commands of the bot.** -/
def Command.builtin : List Command := [
  { name := "Test command"
    verbs := ["test", "ping"]
    description := "A simple command for testing the bot."
    usage := "test [message]"
    needsStore := false
    action := .ping },
  { name := "Display help"
    verbs := ["help", "commands"]
    description := "Lists all commands and their purposes.\n" ++
      "Can also display detailed info about a given command."
    usage := "help [verb]"
    needsStore := false
    action := .help },
  { name := "Derpibooru search"
    verbs := ["derpi", "derpibooru", "db"]
    description := "Posts a random image from Derpibooru matching the given tags.\n" ++
      "Outside of NSFW channels only safe images are searched."
    usage := "derpi <tags>"
    needsStore := false
    action := .search },
  { name := "Shell"
    verbs := ["exec", "sh"]
    description := "Runs a shell command on the host and posts its output.\n" ++
      "Administrators only."
    usage := "exec <command>"
    needsStore := false
    action := .shell },
  { name := "Join voice"
    verbs := ["join", "summon"]
    description := "Joins the voice channel you are in."
    usage := "join"
    needsStore := false
    action := .join },
  { name := "Leave voice"
    verbs := ["leave", "disconnect"]
    description := "Leaves the current voice channel."
    usage := "leave"
    needsStore := false
    action := .leave },
  { name := "Sun"
    verbs := ["sun", "sunny"]
    description := "Posts a picture of the sun."
    usage := "sun"
    needsStore := false
    action := .sun },
  { name := "Post count"
    verbs := ["posts", "stats"]
    description := "Shows how many commands a user has sent.\n" ++
      "Defaults to you when nobody is mentioned."
    usage := "posts [@user]"
    needsStore := true
    action := .posts }]

/-- The index of their verbs. -/
def VerbIndex.builtin : VerbIndex Command.builtin :=
  Table.ofList (declarations (List.finRange Command.builtin.length))

/-- The verbs of the bot are all different, and all of them can be written. -/
theorem VerbIndex.fill_builtin : VerbIndex.fill Command.builtin = .ok VerbIndex.builtin := by
  rfl

/-- The registry of the commands of the bot. -/
def Registry.builtin : Registry := Registry.ofIndex VerbIndex.fill_builtin

/-- The commands of the bot can be registered. -/
theorem Registry.register_builtin : Registry.register Command.builtin = .ok Registry.builtin := by
  rfl

end CommandBot
