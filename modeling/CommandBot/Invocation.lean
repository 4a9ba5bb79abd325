/-
**Invocations.**

A message is an invocation if it begins with the command prefix.  What follows the prefix is taken
apart at single spaces: the first part is the verb, the others are the arguments.  Spaces in a row
leave empty parts, so that nothing of the message is lost.

* `CommandBot.Invocation` — a verb with its arguments;
* `CommandBot.Invocation.parse?` — the invocation that a message is;
* `CommandBot.Invocation.text` — the message that an invocation is written as;
* `CommandBot.Invocation.WellFormed` — invocations of parts without spaces.
-/

import CommandBot.Text.Cut

set_option relaxedAutoImplicit false
set_option autoImplicit false

namespace CommandBot

/-- A verb with its arguments. -/
structure Invocation where
  verb : String
  args : List String
deriving DecidableEq, Repr

namespace Invocation

open Text (afterStart? afterStart?_eq_some_iff)

/-! ### Reading and writing -/

/-- The invocation whose parts are given; the first is the verb. -/
def ofParts? : List String → Option Invocation
  | [] => none
  | verb :: args => some ⟨verb, args⟩

/-- The parts of an invocation. -/
def parts (i : Invocation) : List String := i.verb :: i.args

/-- **The invocation that a message is.**  An empty prefix makes no message one. -/
def parse? (lead message : String) : Option Invocation :=
  if lead.isEmpty then none
  else
    match afterStart? lead.toList message.toList with
    | none => none
    | some rest => ofParts? ((rest.splitOn ' ').map String.ofList)

/-- The text of an invocation without the prefix. -/
def body (i : Invocation) : String := " ".intercalate i.parts

/-- **The message that an invocation is written as.** -/
def text (lead : String) (i : Invocation) : String := lead ++ i.body

/-- An invocation whose parts have no spaces. -/
def WellFormed (i : Invocation) : Prop := ∀ part ∈ i.parts, ' ' ∉ part.toList

/-! ### Reading against writing -/

theorem parts_of_ofParts? {parts : List String} {i : Invocation} (h : ofParts? parts = some i) :
    i.parts = parts := by
  cases parts with
  | nil => cases h
  | cons verb args => cases h; rfl

theorem toList_body (i : Invocation) :
    i.body.toList = [' '].intercalate (i.parts.map String.toList) := by
  rw [body, String.toList_intercalate]; rfl

end Invocation

end CommandBot
