/-
**JSON documents.**

A document is read from its tokens by one pass that keeps the containers which are still open, so
that documents may nest to any depth.  Writing a document as tokens is a function: a document has
one sequence of tokens.

* `CommandBot.Json` — a document;
* `CommandBot.Json.write` — the tokens of a document;
* `CommandBot.Json.Reader` — how far a document is read;
* `CommandBot.Json.read?` — the document that some tokens are;
* `CommandBot.Json.parse?` — the document that a text is.
-/

import CommandBot.Json.Token

set_option relaxedAutoImplicit false
set_option autoImplicit false

namespace CommandBot

/-- A document.  The members of an object keep their order, and a name may occur more than
once. -/
inductive Json where
  | null
  | bool (value : Bool)
  | number (digits : List Char)
  | string (items : List Json.Item)
  | array (items : List Json)
  | object (members : List (List Json.Item × Json))

namespace Json

/-! ### Writing -/

mutual

/-- **The tokens of a document.** -/
def write : Json → List Token
  | null => [.null]
  | bool value => [.bool value]
  | number digits => [.number digits]
  | string items => [.string items]
  | array [] => [.openArray, .closeArray]
  | array (item :: items) => .openArray :: (write item ++ (writeItems items ++ [.closeArray]))
  | object [] => [.openObject, .closeObject]
  | object (member :: members) =>
      .openObject :: (writeMember member ++ (writeMembers members ++ [.closeObject]))

/-- The tokens of the items that follow the first one. -/
def writeItems : List Json → List Token
  | [] => []
  | item :: items => .comma :: (write item ++ writeItems items)

/-- The tokens of a member. -/
def writeMember : List Item × Json → List Token
  | (name, value) => .string name :: .colon :: write value

/-- The tokens of the members that follow the first one. -/
def writeMembers : List (List Item × Json) → List Token
  | [] => []
  | member :: members => .comma :: (writeMember member ++ writeMembers members)

end

/-! ### Reading -/

/-- A container that is still open, with what it holds so far, the last first. -/
inductive Opened where
  /-- An array that waits for the end of an item. -/
  | array (items : List Json)
  /-- An object that waits for the end of the value of a member. -/
  | object (members : List (List Item × Json)) (name : List Item)

/-- How far a document is read, with the containers around that place, the innermost first. -/
inductive Reader where
  /-- A value must come. -/
  | value (around : List Opened)
  /-- An array was just opened. -/
  | inArray (around : List Opened)
  /-- An object was just opened. -/
  | inObject (around : List Opened)
  /-- The name of another member must come. -/
  | name (members : List (List Item × Json)) (around : List Opened)
  /-- The colon after a name must come. -/
  | colon (members : List (List Item × Json)) (name : List Item) (around : List Opened)
  /-- A value has ended. -/
  | ended (value : Json) (around : List Opened)

namespace Reader

/-- The state after the first token of a value. -/
def begin? (around : List Opened) : Token → Option Reader
  | .null => some (.ended .null around)
  | .bool v => some (.ended (.bool v) around)
  | .number digits => some (.ended (.number digits) around)
  | .string items => some (.ended (.string items) around)
  | .openArray => some (.inArray around)
  | .openObject => some (.inObject around)
  | _ => none

/-- The state after one more token, unless it cannot stand there. -/
def step? : Reader → Token → Option Reader
  | .value around, token => begin? around token
  | .inArray around, .closeArray => some (.ended (.array []) around)
  | .inArray around, token => begin? (.array [] :: around) token
  | .inObject around, .closeObject => some (.ended (.object []) around)
  | .inObject around, .string n => some (.colon [] n around)
  | .name members around, .string n => some (.colon members n around)
  | .colon members n around, .colon => some (.value (.object members n :: around))
  | .ended v (.array items :: around), .comma =>
      some (.value (.array (v :: items) :: around))
  | .ended v (.array items :: around), .closeArray =>
      some (.ended (.array (v :: items).reverse) around)
  | .ended v (.object members n :: around), .comma =>
      some (.name ((n, v) :: members) around)
  | .ended v (.object members n :: around), .closeObject =>
      some (.ended (.object ((n, v) :: members).reverse) around)
  | _, _ => none

/-- The document that is read when some more tokens end it. -/
def finish? : Reader → List Token → Option Json
  | .ended v [], [] => some v
  | _, [] => none
  | reader, token :: rest =>
      match reader.step? token with
      | none => none
      | some reader => reader.finish? rest

end Reader

/-- **The document that some tokens are.** -/
def read? (tokens : List Token) : Option Json := Reader.finish? (.value []) tokens

/-- **The document that a text is.** -/
def parse? (s : List Char) : Option Json :=
  match tokens? s with
  | none => none
  | some tokens => read? tokens

end Json

end CommandBot
