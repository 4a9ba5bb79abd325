/-
**The format of a response.**

Which documents are responses is said here without the functions that read them: which members of
an object matter, what an address is, and which documents are images and responses.  Together with
the grammar of JSON this is the format of the text of a response, and exactly the texts in this
format are read.

Main definitions:

* `CommandBot.Board.Response.Field` — the member of an object with a name, if there is one;
* `CommandBot.Board.Response.Address` — an address, or a null;
* `CommandBot.Board.Response.Image` — an image and its address;
* `CommandBot.Board.Response.Gives` — **a response and the addresses of its images.**

Main results:

* `CommandBot.Board.Response.image?_eq_some_iff`,
  `CommandBot.Board.Response.addresses?_eq_some_iff` — what is read of a document;
* `CommandBot.Board.Response.parse_iff` — **exactly the texts of responses are read.**
-/

import CommandBot.Board.Response
import CommandBot.Proofs.Json.Reading
import Mathlib.Data.List.Forall2

set_option relaxedAutoImplicit false
set_option autoImplicit false

namespace CommandBot.Board.Response

open Json (Item IsText)
open Json.Grammar (StandsFor)

/-! ### The format -/

/-- The names of all members are texts other than `name`. -/
def Others (name : List Char) (members : List (List Item × Json)) : Prop :=
  ∀ member ∈ members, ∃ text, StandsFor member.1 text ∧ text ≠ name

/-- **The value of the member with a name**, if there is such a member.  There are not two, and the
names of the others are texts. -/
inductive Field (name : List Char) : List (List Item × Json) → Option Json → Prop where
  | absent {members : List (List Item × Json)} (others : Others name members) :
      Field name members none
  | present {before after : List (List Item × Json)} {items : List Item} {value : Json}
      (earlier : Others name before) (named : StandsFor items name) (later : Others name after) :
      Field name (before ++ (items, value) :: after) (some value)

/-- An address, or a null, which is none. -/
inductive Address : Json → Option (List Char) → Prop where
  | null : Address .null none
  | text {items : List Item} {text : List Char} (h : StandsFor items text) :
      Address (.string items) (some text)

/-- **An image and its address**: an object that may have an address, or an array of one. -/
inductive Image : Json → Option (List Char) → Prop where
  | absent {members : List (List Item × Json)} (field : Field "view_url".toList members none) :
      Image (.object members) none
  | present {members : List (List Item × Json)} {value : Json} {address : Option (List Char)}
      (field : Field "view_url".toList members (some value)) (h : Address value address) :
      Image (.object members) address
  | array {value : Json} {address : Option (List Char)} (h : Address value address) :
      Image (.array [value]) address

/-- An array of images and their addresses. -/
inductive Images : Json → List (Option (List Char)) → Prop where
  | mk {items : List Json} {addresses : List (Option (List Char))}
      (h : List.Forall₂ Image items addresses) : Images (.array items) addresses

/-- **A response and the addresses of its images**: an object that may have an array of images, or
an array with such an array or nothing in it. -/
inductive Gives : Json → List (Option (List Char)) → Prop where
  | absent {members : List (List Item × Json)} (field : Field "images".toList members none) :
      Gives (.object members) []
  | present {members : List (List Item × Json)} {value : Json}
      {addresses : List (Option (List Char))}
      (field : Field "images".toList members (some value)) (h : Images value addresses) :
      Gives (.object members) addresses
  | empty : Gives (.array []) []
  | array {value : Json} {addresses : List (Option (List Char))} (h : Images value addresses) :
      Gives (.array [value]) addresses

/-! ### Fields -/

theorem others_nil (name : List Char) : Others name [] := by simp [Others]

theorem others_cons {name : List Char} {items : List Item} {value : Json}
    {members : List (List Item × Json)} :
    Others name ((items, value) :: members) ↔
      (∃ text, StandsFor items text ∧ text ≠ name) ∧ Others name members := by
  simp [Others]

theorem named?_cons {items : List Item} {value : Json} {members : List (List Item × Json)}
    {named : List (List Char × Json)} :
    named? ((items, value) :: members) = some named ↔
      ∃ text rest, StandsFor items text ∧ named? members = some rest ∧
        named = (text, value) :: rest := by
  simp only [← Json.decode?_eq_some_iff]
  rw [named?]
  cases Json.decode? items <;> cases named? members <;> simp [eq_comm]

theorem valuesOf_cons (name text : List Char) (value : Json) (members : List (List Char × Json)) :
    valuesOf name ((text, value) :: members) =
      if text = name then value :: valuesOf name members else valuesOf name members := by
  by_cases h : text = name <;> simp [valuesOf, h]

/-- The members have no value for a name exactly if they are others. -/
theorem others_iff {name : List Char} {members : List (List Item × Json)} :
    Others name members ↔ ∃ named, named? members = some named ∧ valuesOf name named = [] := by
  induction members with
  | nil => simp [others_nil, named?, valuesOf]
  | cons member members ih =>
      obtain ⟨items, value⟩ := member
      rw [others_cons, ih]
      constructor
      · rintro ⟨⟨text, htext, hne⟩, named, hnamed, hvalues⟩
        refine ⟨_, named?_cons.2 ⟨text, named, htext, hnamed, rfl⟩, ?_⟩
        rw [valuesOf_cons, if_neg hne, hvalues]
      · rintro ⟨_, hall, hvalues⟩
        obtain ⟨text, named, htext, hnamed, rfl⟩ := named?_cons.1 hall
        rw [valuesOf_cons] at hvalues
        split at hvalues
        · cases hvalues
        · next hne => exact ⟨⟨text, htext, hne⟩, named, hnamed, hvalues⟩

/-- The members have one value for a name exactly if that is the field. -/
theorem field_iff {name : List Char} {members : List (List Item × Json)} {value : Json} :
    Field name members (some value) ↔
      ∃ named, named? members = some named ∧ valuesOf name named = [value] := by
  constructor
  · intro h
    cases h with
    | @present before after items _ earlier hname later =>
        induction before with
        | nil =>
            obtain ⟨named, hnamed, hvalues⟩ := others_iff.1 later
            refine ⟨_, named?_cons.2 ⟨name, named, hname, hnamed, rfl⟩, ?_⟩
            rw [valuesOf_cons, if_pos rfl, hvalues]
        | cons member before ih =>
            obtain ⟨⟨text, htext, hne⟩, earlier⟩ := others_cons.1 earlier
            obtain ⟨named, hnamed, hvalues⟩ := ih earlier
            refine ⟨_, named?_cons.2 ⟨text, named, htext, hnamed, rfl⟩, ?_⟩
            rw [valuesOf_cons, if_neg hne, hvalues]
  · rintro ⟨named, hnamed, hvalues⟩
    induction members generalizing named with
    | nil =>
        cases hnamed
        cases hvalues
    | cons member members ih =>
        obtain ⟨items, other⟩ := member
        obtain ⟨text, rest, htext, hrest, rfl⟩ := named?_cons.1 hnamed
        rw [valuesOf_cons] at hvalues
        split at hvalues
        · next heq =>
            subst heq
            obtain ⟨rfl, hnone⟩ := List.cons.inj hvalues
            exact .present (others_nil _) htext (others_iff.2 ⟨rest, hrest, hnone⟩)
        · next hne =>
            cases ih rest hrest hvalues with
            | present earlier named later =>
                exact .present (others_cons.2 ⟨⟨text, htext, hne⟩, earlier⟩) named later

theorem onlyOr_eq_some_iff {α : Type} {absent value : α} {values : List α} :
    onlyOr absent values = some value ↔ values = [] ∧ value = absent ∨ values = [value] := by
  rcases values with _ | ⟨a, _ | ⟨b, values⟩⟩ <;> simp [onlyOr, eq_comm]

/-- The value of the member with a name, or `absent` without such a member. -/
def fieldOr? (absent : Json) (name : List Char) (members : List (List Item × Json)) : Option Json :=
  (named? members).bind fun named => onlyOr absent (valuesOf name named)

theorem fieldOr?_eq_some_iff {absent value : Json} {name : List Char}
    {members : List (List Item × Json)} :
    fieldOr? absent name members = some value ↔
      Field name members none ∧ value = absent ∨ Field name members (some value) := by
  have hnone : Field name members none ↔ Others name members :=
    ⟨fun h => by cases h; assumption, .absent⟩
  rw [hnone, others_iff, field_iff, fieldOr?, Option.bind_eq_some_iff]
  constructor
  · rintro ⟨named, hnamed, honly⟩
    rcases onlyOr_eq_some_iff.1 honly with ⟨hvalues, rfl⟩ | hvalues
    · exact .inl ⟨⟨named, hnamed, hvalues⟩, rfl⟩
    · exact .inr ⟨named, hnamed, hvalues⟩
  · rintro (⟨⟨named, hnamed, hvalues⟩, rfl⟩ | ⟨named, hnamed, hvalues⟩)
    · exact ⟨named, hnamed, onlyOr_eq_some_iff.2 (.inl ⟨hvalues, rfl⟩)⟩
    · exact ⟨named, hnamed, onlyOr_eq_some_iff.2 (.inr hvalues)⟩

/-! ### What is read of a document -/

theorem address?_eq_some_iff {value : Json} {address : Option (List Char)} :
    address? value = some address ↔ Address value address := by
  constructor
  · intro h
    unfold address? at h
    split at h
    · cases h
      exact .null
    · obtain ⟨text, htext, rfl⟩ := Option.map_eq_some_iff.1 h
      exact .text (Json.decode?_eq_some_iff.1 htext)
    · cases h
  · rintro (_ | htext)
    · rfl
    · rw [address?, Json.decode?_eq_some_iff.2 htext]
      rfl

theorem image?_object (members : List (List Item × Json)) :
    image? (.object members) = (fieldOr? .null "view_url".toList members).bind address? := by
  rw [image?, fieldOr?]
  cases named? members with
  | none => rfl
  | some named =>
      simp only [Option.bind_some]
      cases onlyOr .null (valuesOf "view_url".toList named) <;> rfl

theorem addresses?_object (members : List (List Item × Json)) :
    addresses? (.object members) = (fieldOr? (.array []) "images".toList members).bind list? := by
  rw [addresses?, fieldOr?]
  cases named? members with
  | none => rfl
  | some named =>
      simp only [Option.bind_some]
      cases onlyOr (.array []) (valuesOf "images".toList named) <;> rfl

/-- **The address of an image.** -/
theorem image?_eq_some_iff {image : Json} {address : Option (List Char)} :
    image? image = some address ↔ Image image address := by
  constructor
  · intro h
    cases image with
    | null | bool | number | string => cases h
    | array items =>
        rcases items with _ | ⟨value, _ | ⟨_, _⟩⟩
        · cases h
        · exact .array (address?_eq_some_iff.1 h)
        · cases h
    | object members =>
        rw [image?_object, Option.bind_eq_some_iff] at h
        obtain ⟨value, hvalue, haddress⟩ := h
        rcases fieldOr?_eq_some_iff.1 hvalue with ⟨hfield, rfl⟩ | hfield
        · cases haddress
          exact .absent hfield
        · exact .present hfield (address?_eq_some_iff.1 haddress)
  · intro h
    cases h with
    | absent hfield =>
        rw [image?_object, fieldOr?_eq_some_iff.2 (.inl ⟨hfield, rfl⟩)]
        rfl
    | present hfield haddress =>
        rw [image?_object, fieldOr?_eq_some_iff.2 (.inr hfield)]
        exact address?_eq_some_iff.2 haddress
    | array haddress => exact address?_eq_some_iff.2 haddress

theorem images?_eq_some_iff {items : List Json} {addresses : List (Option (List Char))} :
    images? items = some addresses ↔ List.Forall₂ Image items addresses := by
  induction items generalizing addresses with
  | nil => simp [images?, eq_comm]
  | cons item items ih =>
      constructor
      · intro h
        rw [images?] at h
        split at h
        · next haddress hrest =>
            cases h
            exact .cons (image?_eq_some_iff.1 haddress) (ih.1 hrest)
        · cases h
      · intro h
        cases h with
        | cons haddress hrest =>
            rw [images?, image?_eq_some_iff.2 haddress, ih.2 hrest]

theorem list?_eq_some_iff {value : Json} {addresses : List (Option (List Char))} :
    list? value = some addresses ↔ Images value addresses := by
  constructor
  · intro h
    unfold list? at h
    split at h
    · exact .mk (images?_eq_some_iff.1 h)
    · cases h
  · rintro ⟨h⟩
    exact images?_eq_some_iff.2 h

/-- **The addresses in a response.** -/
theorem addresses?_eq_some_iff {document : Json} {addresses : List (Option (List Char))} :
    addresses? document = some addresses ↔ Gives document addresses := by
  constructor
  · intro h
    cases document with
    | null | bool | number | string => cases h
    | array items =>
        rcases items with _ | ⟨value, _ | ⟨_, _⟩⟩
        · cases h
          exact .empty
        · exact .array (list?_eq_some_iff.1 h)
        · cases h
    | object members =>
        rw [addresses?_object, Option.bind_eq_some_iff] at h
        obtain ⟨value, hvalue, hlist⟩ := h
        rcases fieldOr?_eq_some_iff.1 hvalue with ⟨hfield, rfl⟩ | hfield
        · cases hlist
          exact .absent hfield
        · exact .present hfield (list?_eq_some_iff.1 hlist)
  · intro h
    cases h with
    | absent hfield =>
        rw [addresses?_object, fieldOr?_eq_some_iff.2 (.inl ⟨hfield, rfl⟩)]
        rfl
    | present hfield himages =>
        rw [addresses?_object, fieldOr?_eq_some_iff.2 (.inr hfield)]
        exact list?_eq_some_iff.2 himages
    | empty => rfl
    | array himages => exact list?_eq_some_iff.2 himages

/-! ### What is read of a text -/

theorem present_eq (addresses : List (Option (List Char))) :
    present addresses = ((addresses.filterMap id).filter (· ≠ [])).map String.ofList := by
  induction addresses with
  | nil => rfl
  | cons address addresses ih =>
      rcases address with _ | _ | ⟨c, text⟩
      · exact ih
      · exact ih
      · exact congrArg (String.ofList (c :: text) :: ·) ih

theorem parse_of_gives {body : String} {document : Json} {addresses : List (Option (List Char))}
    (htext : IsText document body.toList) (hgives : Gives document addresses) :
    parse body = .ok (((addresses.filterMap id).filter (· ≠ [])).map String.ofList) := by
  have hdocument := Json.parse?_eq_some_iff.2 htext
  have hurls : urls? document = some (present addresses) := by
    rw [urls?, addresses?_eq_some_iff.2 hgives, Option.map_some]
  simp only [parse, hdocument, hurls, present_eq]

theorem parse_of_not {body : String}
    (h : ¬ ∃ document addresses, IsText document body.toList ∧ Gives document addresses) :
    parse body = .error .unreadable := by
  unfold parse
  split
  · rfl
  · next document hdocument =>
      split
      · rfl
      · next urls hurls =>
          obtain ⟨addresses, haddresses, -⟩ := Option.map_eq_some_iff.1 hurls
          exact absurd ⟨document, addresses, Json.parse?_eq_some_iff.1 hdocument,
            addresses?_eq_some_iff.1 haddresses⟩ h

theorem unreadable_of_parse {body : String} {e : BoardError} (h : parse body = .error e) :
    e = .unreadable := by
  unfold parse at h
  split at h
  · cases h
    rfl
  · split at h
    · cases h
      rfl
    · cases h

/-- What is read is what a document gives. -/
theorem exists_gives_of_parse {body : String} {urls : List String} (h : parse body = .ok urls) :
    ∃ document addresses, IsText document body.toList ∧ Gives document addresses ∧
      urls = ((addresses.filterMap id).filter (· ≠ [])).map String.ofList := by
  by_cases hread : ∃ document addresses, IsText document body.toList ∧ Gives document addresses
  · obtain ⟨document, addresses, htext, hgives⟩ := hread
    rw [parse_of_gives htext hgives] at h
    cases h
    exact ⟨document, addresses, htext, hgives, rfl⟩
  · rw [parse_of_not hread] at h
    cases h

/-- **Exactly the texts of responses are read**, and what is read is every address that is there and
is not empty, in the order of the images.  Any other text is unreadable. -/
theorem parse_iff (body : String) :
    (∀ urls, parse body = .ok urls ↔
      ∃ document addresses, IsText document body.toList ∧ Gives document addresses ∧
        urls = ((addresses.filterMap id).filter (· ≠ [])).map String.ofList) ∧
    (∀ e, parse body = .error e ↔
      e = .unreadable ∧
        ¬ ∃ document addresses, IsText document body.toList ∧ Gives document addresses) := by
  constructor
  · intro urls
    constructor
    · intro h
      by_cases hread : ∃ document addresses, IsText document body.toList ∧ Gives document addresses
      · obtain ⟨document, addresses, htext, hgives⟩ := hread
        rw [parse_of_gives htext hgives] at h
        cases h
        exact ⟨document, addresses, htext, hgives, rfl⟩
      · rw [parse_of_not hread] at h
        cases h
    · rintro ⟨document, addresses, htext, hgives, rfl⟩
      exact parse_of_gives htext hgives
  · intro e
    constructor
    · intro h
      refine ⟨unreadable_of_parse h, ?_⟩
      rintro ⟨document, addresses, htext, hgives⟩
      rw [parse_of_gives htext hgives] at h
      cases h
    · rintro ⟨rfl, hnot⟩
      exact parse_of_not hnot

/-- One half of a pair may stand in a value that nobody reads, but not in a name. -/
example :
    parse "\x7b\"page\":[\"\\uD800\"],\"images\":[\x7b\"view_url\":\"a\"\x7d,[null]]\x7d" = .ok ["a"] ∧
      parse "\x7b\"images\":[\x7b\"\\uD800\":1\x7d]\x7d" = .error .unreadable := by
  constructor <;> cbv

end CommandBot.Board.Response
