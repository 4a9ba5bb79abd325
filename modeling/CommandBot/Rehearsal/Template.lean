/-
**Commands that repeat their arguments.**

The commands of a rehearsal answer with templates, in which a mark stands for the arguments.  A
message has one list of arguments, so the templates are filled with them before it is answered, and
what the commands answer with is fixed.

* `CommandBot.Rehearsal.Template.reply` — a template with the arguments filled in;
* `CommandBot.Rehearsal.Template.registry` — **the commands as they answer with some arguments**;
* `CommandBot.Rehearsal.Template.registryFor` — as they answer a message.
-/

import CommandBot.Invocation
import CommandBot.Registry

set_option relaxedAutoImplicit false
set_option autoImplicit false

namespace CommandBot.Rehearsal.Template

/-- A text with every `%ARGS%` in it replaced. -/
def fill (args : List Char) : List Char → List Char
  | '%' :: 'A' :: 'R' :: 'G' :: 'S' :: '%' :: rest => args ++ fill args rest
  | c :: rest => c :: fill args rest
  | [] => []

/-- A template with the arguments filled into its text. -/
def reply (args : List String) (template : Reply) : Reply :=
  { template with
    text := String.ofList (fill ("|".intercalate args).toList template.text.toList) }

/-- A command as it answers with some arguments. -/
def command (args : List String) (c : Command) : Command :=
  match c.action with
  | .canned template => { c with action := .canned (reply args template) }
  | _ => c

/-- **The commands as they answer with some arguments**; they keep their verbs. -/
def registry (args : List String) (r : Registry) : Registry :=
  match Registry.register (r.commands.map (command args)) with
  | .ok filled => filled
  | .error _ => r

/-- The commands as they answer a message. -/
def registryFor (lead message : String) (r : Registry) : Registry :=
  match Invocation.parse? lead message with
  | some i => registry i.args r
  | none => r

end CommandBot.Rehearsal.Template
