/-
**What the image board answers.**

The answer to a search is a JSON document: a record of images, each a record with the address at
which it is shown.  A record is an object, in which members with other names do not matter, or an
array of its fields in their order.  A field that matters may stand once, and the names of both
records and the addresses must be texts.

* `CommandBot.Board.Response.urls?` — the addresses that a document gives;
* `CommandBot.Board.Response.parse` — **the addresses that a text gives.**
-/

import CommandBot.Failure
import CommandBot.Json.Document

set_option relaxedAutoImplicit false
set_option autoImplicit false

namespace CommandBot.Board.Response

/-! ### Records -/

/-- The members of an object with their names as texts, if all of them are texts. -/
def named? : List (List Json.Item × Json) → Option (List (List Char × Json))
  | [] => some []
  | (name, value) :: rest =>
      match Json.decode? name, named? rest with
      | some name, some rest => some ((name, value) :: rest)
      | _, _ => none

/-- The values of the members with a name, in order. -/
def valuesOf (name : List Char) (members : List (List Char × Json)) : List Json :=
  members.filterMap fun member => if member.1 = name then some member.2 else none

/-- The only value of a list, or `absent` for an empty one; there must not be two. -/
def onlyOr {α : Type} (absent : α) : List α → Option α
  | [] => some absent
  | [a] => some a
  | _ => none

/-! ### Images -/

/-- The address that a value is; a null is none. -/
def address? : Json → Option (Option (List Char))
  | .null => some none
  | .string items => (Json.decode? items).map some
  | _ => none

/-- The address of an image. -/
def image? : Json → Option (Option (List Char))
  | .object members =>
      match named? members with
      | none => none
      | some members =>
          match onlyOr .null (valuesOf "view_url".toList members) with
          | none => none
          | some value => address? value
  | .array [value] => address? value
  | _ => none

/-- The addresses of images. -/
def images? : List Json → Option (List (Option (List Char)))
  | [] => some []
  | image :: rest =>
      match image? image, images? rest with
      | some address, some rest => some (address :: rest)
      | _, _ => none

/-- The addresses of a list of images. -/
def list? : Json → Option (List (Option (List Char)))
  | .array items => images? items
  | _ => none

/-! ### Responses -/

/-- The addresses in a response, one for each image; without a list there are none. -/
def addresses? : Json → Option (List (Option (List Char)))
  | .object members =>
      match named? members with
      | none => none
      | some members =>
          match onlyOr (.array []) (valuesOf "images".toList members) with
          | none => none
          | some value => list? value
  | .array [] => some []
  | .array [value] => list? value
  | _ => none

/-- The addresses that are there and are not empty. -/
def present (addresses : List (Option (List Char))) : List String :=
  addresses.filterMap fun
    | some (c :: rest) => some (String.ofList (c :: rest))
    | _ => none

/-- The addresses that a document gives. -/
def urls? (document : Json) : Option (List String) := (addresses? document).map present

/-- **The addresses that the text of a response gives.** -/
def parse (body : String) : Except BoardError (List String) :=
  match Json.parse? body.toList with
  | none => .error .unreadable
  | some document =>
      match urls? document with
      | none => .error .unreadable
      | some urls => .ok urls

end CommandBot.Board.Response
