/-
**Searching the image board.**

A search is one request over HTTP.  The words of the search and the key of the bot are sent as a
form, so that no text of a user can be taken for another parameter.

* `CommandBot.Board.pairs` — the parameters of a search;
* `CommandBot.Board.target` — the path and the form of the request;
* `CommandBot.Board.HttpAnswer` — an answer over HTTP;
* `CommandBot.Board.outcome` — what came of a search.
-/

import CommandBot.Board.Response
import CommandBot.Text.Percent

set_option relaxedAutoImplicit false
set_option autoImplicit false

namespace CommandBot.Board

/-! ### The request -/

/-- The path of the search on the server. -/
def path : String := "/api/v1/json/search/images"

/-- The parameters of a search. -/
def pairs (apiKey : Option String) (query : String) : List (String × String) :=
  ("q", query) :: (apiKey.map fun key => ("key", key)).toList

/-- The form that is sent with a search. -/
def form (apiKey : Option String) (query : String) : List Char :=
  Text.Form.encode (pairs apiKey query)

/-- **What is asked of the server**: the path with the form. -/
def target (apiKey : Option String) (query : String) : String :=
  path ++ "?" ++ String.ofList (form apiKey query)

/-! ### The answer -/

/-- An answer over HTTP. -/
structure HttpAnswer where
  status : Nat
  body : String
deriving DecidableEq, Repr

/-- Statuses from 200 to 299 are those of success. -/
def HttpAnswer.isSuccess (a : HttpAnswer) : Bool := 200 ≤ a.status && a.status ≤ 299

/-- A server: it answers a request, or cannot be reached. -/
abbrev Server := String → Option HttpAnswer

/-- **What came of a search** that a server answered, or did not. -/
def outcome : Option HttpAnswer → Except BoardError (List String)
  | none => .error .unreachable
  | some answer =>
      if answer.isSuccess then
        Response.parse (String.ofList (Text.dropMark answer.body.toList))
      else .error (.status answer.status)

/-- A search on a server. -/
def search (server : Server) (apiKey : Option String) (query : String) :
    Except BoardError (List String) :=
  outcome (server (target apiKey query))

end CommandBot.Board
