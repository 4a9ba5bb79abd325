/-
**A document is read exactly from its texts.**

The reader keeps the containers that are still open, while the grammar nests.  They are compared by
what may still come: a text *closes* the containers around a value that has ended if it goes on with
the rest of the innermost one and then closes the others.  Every text that a reader accepts
completes it in this sense, by induction on the tokens; and a phrase of the grammar takes a reader
from where the phrase may begin to where it has ended, by induction on the phrase.

Main definitions:

* `CommandBot.Json.Closes` — the texts that close the containers around a value;
* `CommandBot.Json.Completes` — the texts that complete a reader;
* `CommandBot.Json.Reader.read?` — the document that a reader makes of a text.

Main results:

* `CommandBot.Json.completes_of_finish?` — what is accepted completes the reader;
* `CommandBot.Json.carries_of_derives` — a phrase carries a reader to its end;
* `CommandBot.Json.parse?_eq_some_iff` — **a document is read exactly from its texts.**
-/

import CommandBot.Proofs.Json.Scanning

set_option relaxedAutoImplicit false
set_option autoImplicit false

namespace CommandBot.Json

open Grammar

/-! ### White space around a phrase -/

theorem Grammar.gap_nil : Gap [] := by simp [Gap]

theorem Grammar.Gap.append {w w' : List Char} (h : Gap w) (h' : Gap w') : Gap (w ++ w') := by
  intro c hc
  rcases List.mem_append.1 hc with hc | hc
  · exact h c hc
  · exact h' c hc

/-- More white space may follow an element. -/
theorem Grammar.Derives.append_gap {v : Json} {s w : List Char} (h : Derives (.element v) s)
    (hw : Gap w) : Derives (.element v) (s ++ w) := by
  cases h with
  | element before value after =>
      rw [List.append_assoc]
      exact .element before value (after.append hw)

/-- More white space may follow a member. -/
theorem Grammar.Derives.member_append_gap {name : List Item} {v : Json} {s w : List Char}
    (h : Derives (.member name v) s) (hw : Gap w) : Derives (.member name v) (s ++ w) := by
  cases h with
  | member before quoted after value =>
      simpa using Derives.member before quoted after (value.append_gap hw)

/-! ### What may still come -/

variable {document : Json}

/-- **The texts that close the containers around a value**, so that they make up a document. -/
inductive Closes (document : Json) : Json → List Opened → List Char → Prop where
  | done {w : List Char} (gap : Gap w) : Closes document document [] w
  | lastItem {v : Json} {items : List Json} {around : List Opened} {w s : List Char} (gap : Gap w)
      (rest : Closes document (.array (items.reverse ++ [v])) around s) :
      Closes document v (.array items :: around) (w ++ ']' :: s)
  | moreItems {v : Json} {items more : List Json} {around : List Opened} {w s t : List Char}
      (gap : Gap w) (inside : Derives (.elements more) t)
      (rest : Closes document (.array (items.reverse ++ v :: more)) around s) :
      Closes document v (.array items :: around) (w ++ ',' :: (t ++ ']' :: s))
  | lastMember {v : Json} {members : List (List Item × Json)} {name : List Item}
      {around : List Opened} {w s : List Char} (gap : Gap w)
      (rest : Closes document (.object (members.reverse ++ [(name, v)])) around s) :
      Closes document v (.object members name :: around) (w ++ '\x7d' :: s)
  | moreMembers {v : Json} {members more : List (List Item × Json)} {name : List Item}
      {around : List Opened} {w s t : List Char} (gap : Gap w)
      (inside : Derives (.members more) t)
      (rest : Closes document (.object (members.reverse ++ (name, v) :: more)) around s) :
      Closes document v (.object members name :: around) (w ++ ',' :: (t ++ '\x7d' :: s))

/-- **The texts that complete a reader**, so that it has read a document. -/
inductive Completes (document : Json) : Reader → List Char → Prop where
  | value {v : Json} {around : List Opened} {s t : List Char} (element : Derives (.element v) s)
      (rest : Closes document v around t) : Completes document (.value around) (s ++ t)
  | emptyArray {around : List Opened} {w s : List Char} (gap : Gap w)
      (rest : Closes document (.array []) around s) :
      Completes document (.inArray around) (w ++ ']' :: s)
  | array {items : List Json} {around : List Opened} {s t : List Char}
      (inside : Derives (.elements items) s) (rest : Closes document (.array items) around t) :
      Completes document (.inArray around) (s ++ ']' :: t)
  | emptyObject {around : List Opened} {w s : List Char} (gap : Gap w)
      (rest : Closes document (.object []) around s) :
      Completes document (.inObject around) (w ++ '\x7d' :: s)
  | object {members : List (List Item × Json)} {around : List Opened} {s t : List Char}
      (inside : Derives (.members members) s) (rest : Closes document (.object members) around t) :
      Completes document (.inObject around) (s ++ '\x7d' :: t)
  | name {members more : List (List Item × Json)} {around : List Opened} {s t : List Char}
      (inside : Derives (.members more) s)
      (rest : Closes document (.object (members.reverse ++ more)) around t) :
      Completes document (.name members around) (s ++ '\x7d' :: t)
  | colon {members : List (List Item × Json)} {name : List Item} {v : Json} {around : List Opened}
      {w s t : List Char} (gap : Gap w) (element : Derives (.element v) s)
      (rest : Closes document v (.object members name :: around) t) :
      Completes document (.colon members name around) (w ++ ':' :: (s ++ t))
  | ended {v : Json} {around : List Opened} {s : List Char} (rest : Closes document v around s) :
      Completes document (.ended v around) s

/-- An item and what closes the array around it are the rest of the items and what closes what is
around the array. -/
theorem Closes.elements {v : Json} {items : List Json} {around : List Opened} {s t : List Char}
    (element : Derives (.element v) s) (h : Closes document v (.array items :: around) t) :
    ∃ more s' t', s ++ t = s' ++ ']' :: t' ∧ Derives (.elements more) s' ∧
      Closes document (.array (items.reverse ++ more)) around t' := by
  cases h with
  | lastItem gap rest =>
      exact ⟨[v], _, _, by simp, .lastElement (element.append_gap gap), rest⟩
  | moreItems gap inside rest =>
      exact ⟨_, _, _, by simp, .moreElements (element.append_gap gap) inside, rest⟩

/-- A member and what closes the object around its value are the rest of the members and what
closes what is around the object. -/
theorem Closes.members {name : List Item} {v : Json} {members : List (List Item × Json)}
    {around : List Opened} {s t : List Char} (member : Derives (.member name v) s)
    (h : Closes document v (.object members name :: around) t) :
    ∃ more s' t', s ++ t = s' ++ '\x7d' :: t' ∧ Derives (.members more) s' ∧
      Closes document (.object (members.reverse ++ more)) around t' := by
  cases h with
  | lastMember gap rest =>
      exact ⟨[(name, v)], _, _, by simp, .lastMember (member.member_append_gap gap), rest⟩
  | moreMembers gap inside rest =>
      exact ⟨_, _, _, by simp, .moreMembers (member.member_append_gap gap) inside, rest⟩

theorem Completes.closes {v : Json} {around : List Opened} {s : List Char}
    (h : Completes document (.ended v around) s) : Closes document v around s := by
  cases h with
  | ended rest => exact rest

/-! ### What is accepted -/

/-- A value and what closes the containers around it. -/
theorem Completes.of_value {v : Json} {around : List Opened} {w p s : List Char} (gap : Gap w)
    (value : Derives (.value v) p) (rest : Closes document v around s) :
    Completes document (.value around) (w ++ p ++ s) := by
  have element : Derives (.element v) (w ++ p ++ []) := .element gap value gap_nil
  rw [List.append_nil] at element
  exact .value element rest

/-- The first token of a value, before a text that completes the reader after it. -/
theorem Completes.of_begin? {around : List Opened} {token : Token} {r : Reader} {w p s : List Char}
    (gap : Gap w) (spelling : Spelling token p) (h : Reader.begin? around token = some r)
    (hs : Completes document r s) : Completes document (.value around) (w ++ p ++ s) := by
  cases spelling with
  | closeArray | closeObject | comma | colon => cases h
  | openArray =>
      cases h
      cases hs with
      | emptyArray gap' rest => simpa using Completes.of_value gap (.emptyArray gap') rest
      | array inside rest => simpa using Completes.of_value gap (.array inside) rest
  | openObject =>
      cases h
      cases hs with
      | emptyObject gap' rest => simpa using Completes.of_value gap (.emptyObject gap') rest
      | object inside rest => simpa using Completes.of_value gap (.object inside) rest
  | null =>
      cases h
      exact .of_value gap .null hs.closes
  | boolTrue =>
      cases h
      exact .of_value gap .true hs.closes
  | boolFalse =>
      cases h
      exact .of_value gap .false hs.closes
  | number numeral =>
      cases h
      exact .of_value gap (.number numeral) hs.closes
  | string quoted =>
      cases h
      exact .of_value gap (.string quoted) hs.closes

/-- A name and what completes the reader after it are the rest of the members and what closes what
is around the object. -/
theorem Completes.members {members : List (List Item × Json)} {name : List Item}
    {around : List Opened} {w n s : List Char} (gap : Gap w) (quoted : Quoted name n)
    (h : Completes document (.colon members name around) s) :
    ∃ more s' t', w ++ '"' :: (n ++ ['"']) ++ s = s' ++ '\x7d' :: t' ∧
      Derives (.members more) s' ∧
        Closes document (.object (members.reverse ++ more)) around t' := by
  cases h with
  | colon gap' element rest =>
      obtain ⟨more, s', t', heq, inside, rest⟩ :=
        rest.members (.member gap quoted gap' element)
      exact ⟨more, s', t', by simpa using heq, inside, rest⟩

/-- **One token** before a text that completes the reader after it completes the reader before
it. -/
theorem Completes.of_step? {r r' : Reader} {token : Token} {w p s : List Char} (gap : Gap w)
    (spelling : Spelling token p) (h : r.step? token = some r') (hs : Completes document r' s) :
    Completes document r (w ++ p ++ s) := by
  unfold Reader.step? at h
  split at h
  case h_1 around token => exact .of_begin? gap spelling h hs
  case h_2 around =>
      cases h
      cases spelling
      simpa using Completes.emptyArray gap hs.closes
  case h_3 around token hne =>
      -- the token begins the first item, so what follows is read as after a bracket and a value
      have hvalue := Completes.of_begin? gap spelling h hs
      generalize w ++ p ++ s = text at hvalue ⊢
      cases hvalue with
      | value element rest =>
          obtain ⟨items, s, t, heq, inside, rest⟩ := rest.elements element
          rw [heq]
          exact .array inside (by simpa using rest)
  case h_4 around =>
      cases h
      cases spelling
      simpa using Completes.emptyObject gap hs.closes
  case h_5 around n =>
      cases h
      cases spelling with
      | string quoted =>
          obtain ⟨members, s, t, heq, inside, rest⟩ := hs.members gap quoted
          rw [heq]
          exact .object inside (by simpa using rest)
  case h_6 members around n =>
      cases h
      cases spelling with
      | string quoted =>
          obtain ⟨more, s, t, heq, inside, rest⟩ := hs.members gap quoted
          rw [heq]
          exact .name inside rest
  case h_7 members n around =>
      cases h
      cases spelling
      cases hs with
      | value element rest => simpa using Completes.colon gap element rest
  case h_8 v items around =>
      cases h
      cases spelling
      cases hs with
      | value element rest =>
          obtain ⟨more, s, t, heq, inside, rest⟩ := rest.elements element
          rw [heq]
          have hcloses := Closes.moreItems gap inside (by simpa using rest)
          exact .ended (by simpa using hcloses)
  case h_9 v items around =>
      cases h
      cases spelling
      have hcloses := Closes.lastItem gap (by simpa using hs.closes)
      exact .ended (by simpa using hcloses)
  case h_10 v members n around =>
      cases h
      cases spelling
      cases hs with
      | name inside rest =>
          have hcloses := Closes.moreMembers gap inside (by simpa using rest)
          exact .ended (by simpa using hcloses)
  case h_11 v members n around =>
      cases h
      cases spelling
      have hcloses := Closes.lastMember gap (by simpa using hs.closes)
      exact .ended (by simpa using hcloses)
  case h_12 => cases h

/-- **What a reader accepts completes it.** -/
theorem completes_of_finish? {r : Reader} {tokens : List Token} {s : List Char}
    (h : r.finish? tokens = some document) (hs : Spelled tokens s) : Completes document r s := by
  induction hs generalizing r with
  | nil gap =>
      unfold Reader.finish? at h
      split at h
      · cases h
        exact .ended (.done gap)
      · cases h
      · next heq => cases heq
  | @cons token tokens w p s gap first _ ih =>
      rw [Reader.finish?] at h
      split at h
      · cases h
      · next r' hstep => exact .of_step? gap first hstep (ih h)

/-! ### What is read -/

/-- The document that a reader makes of a text. -/
def Reader.read? (r : Reader) (s : List Char) : Option Json := (tokens? s).bind r.finish?

theorem Reader.read?_gap {w : List Char} (h : Gap w) (r : Reader) (s : List Char) :
    r.read? (w ++ s) = r.read? s := by
  rw [read?, tokens?_gap h, read?]

/-- **A token takes the reader one step**, unless it is a number that the rest continues. -/
theorem Reader.read?_append {r r' : Reader} {token : Token} {p s : List Char}
    (spelling : Spelling token p) (hs : ∀ digits, token = .number digits → Ends s)
    (hstep : r.step? token = some r') : r.read? (p ++ s) = r'.read? s := by
  rw [read?, tokens?_append spelling hs, Option.bind_map, read?]
  congr 1
  funext tokens
  rw [Function.comp_apply, finish?, hstep]

/-- A mark takes the reader one step. -/
theorem Reader.read?_cons {r r' : Reader} {token : Token} {c : Char} (spelling : Spelling token [c])
    (htoken : ∀ digits, token ≠ .number digits) (hstep : r.step? token = some r') (s : List Char) :
    r.read? (c :: s) = r'.read? s :=
  read?_append spelling (fun digits h => absurd h (htoken digits)) hstep

theorem Ends.append_gap {w s : List Char} (hw : Gap w) (hs : Ends s) : Ends (w ++ s) := by
  cases w with
  | nil => exact hs
  | cons c w =>
      intro d hd
      cases hd
      rcases hw c List.mem_cons_self with rfl | rfl | rfl | rfl <;> decide

/-- A reader for which a value may come inside some containers. -/
inductive Awaits : Reader → List Opened → Prop where
  | value {around : List Opened} : Awaits (.value around) around
  | first {around : List Opened} : Awaits (.inArray around) (.array [] :: around)

theorem Awaits.step? {r : Reader} {around : List Opened} (h : Awaits r around) {token : Token}
    (htoken : token ≠ .closeArray) : r.step? token = Reader.begin? around token := by
  cases h with
  | value => rfl
  | first => rw [Reader.step?]; exact htoken

/-- A reader for which a member may come after some others inside some containers. -/
inductive AwaitsName : Reader → List (List Item × Json) → List Opened → Prop where
  | name {members : List (List Item × Json)} {around : List Opened} :
      AwaitsName (.name members around) members around
  | first {around : List Opened} : AwaitsName (.inObject around) [] around

theorem AwaitsName.step? {r : Reader} {members : List (List Item × Json)} {around : List Opened}
    (h : AwaitsName r members around) (name : List Item) :
    r.step? (.string name) = some (.colon members name around) := by
  cases h <;> rfl

/-- A phrase carries a reader from where the phrase may begin to where it has ended.  Only after a
number it matters what follows.  The items of an array end with the bracket, and the members of an
object end with the brace. -/
def Carries (s : List Char) : Phrase → Prop
  | .value v | .element v => ∀ {r around} (rest : List Char), Awaits r around →
      (∀ digits, v = .number digits → Ends rest) →
        r.read? (s ++ rest) = (Reader.ended v around).read? rest
  | .elements items => ∀ {r earlier around} (rest : List Char),
      Awaits r (.array earlier :: around) →
        r.read? (s ++ ']' :: rest) =
          (Reader.ended (.array (earlier.reverse ++ items)) around).read? rest
  | .member name v => ∀ {r members around} (rest : List Char), AwaitsName r members around →
      Ends rest → r.read? (s ++ rest) = (Reader.ended v (.object members name :: around)).read? rest
  | .members members => ∀ {r earlier around} (rest : List Char), AwaitsName r earlier around →
      r.read? (s ++ '\x7d' :: rest) =
        (Reader.ended (.object (earlier.reverse ++ members)) around).read? rest

/-- The one token of a value that has no other. -/
theorem carries_token {v : Json} {token : Token} {s : List Char} (spelling : Spelling token s)
    (htoken : token ≠ .closeArray) (hnumber : ∀ digits, token = .number digits → v = .number digits)
    (hbegin : ∀ around, Reader.begin? around token = some (.ended v around)) :
    Carries s (.value v) := by
  intro r around rest hr hrest
  rw [Reader.read?_append spelling fun digits h => hrest digits (hnumber digits h)]
  rw [hr.step? htoken, hbegin]

/-- **A phrase carries a reader to its end**, by induction on how it is written. -/
theorem carries_of_derives {phrase : Phrase} {s : List Char} (h : Derives phrase s) :
    Carries s phrase := by
  induction h with
  | null => exact carries_token .null nofun nofun fun _ => rfl
  | true => exact carries_token .boolTrue nofun nofun fun _ => rfl
  | false => exact carries_token .boolFalse nofun nofun fun _ => rfl
  | number numeral =>
      refine carries_token (.number numeral) nofun ?_ fun _ => rfl
      intro digits h
      cases h
      rfl
  | string quoted => exact carries_token (.string quoted) nofun nofun fun _ => rfl
  | emptyArray gap =>
      intro r around rest hr hrest
      rw [List.cons_append, List.append_assoc, List.singleton_append]
      rw [Reader.read?_cons .openArray nofun (hr.step? nofun), Reader.read?_gap gap]
      rw [Reader.read?_cons .closeArray nofun rfl]
  | array _ ih =>
      intro r around rest hr hrest
      rw [List.cons_append, List.append_assoc, List.singleton_append]
      rw [Reader.read?_cons .openArray nofun (hr.step? nofun)]
      exact ih rest .first
  | emptyObject gap =>
      intro r around rest hr hrest
      rw [List.cons_append, List.append_assoc, List.singleton_append]
      rw [Reader.read?_cons .openObject nofun (hr.step? nofun), Reader.read?_gap gap]
      rw [Reader.read?_cons .closeObject nofun rfl]
  | object _ ih =>
      intro r around rest hr hrest
      rw [List.cons_append, List.append_assoc, List.singleton_append]
      rw [Reader.read?_cons .openObject nofun (hr.step? nofun)]
      exact ih rest .first
  | element before _ after ih =>
      intro r around rest hr hrest
      rw [List.append_assoc, List.append_assoc, Reader.read?_gap before]
      rw [ih _ hr fun digits h => (hrest digits h).append_gap after, Reader.read?_gap after]
  | lastElement _ ih =>
      intro r earlier around rest hr
      rw [ih _ hr fun _ _ => by simp [Ends], Reader.read?_cons .closeArray nofun rfl,
        List.reverse_cons]
  | @moreElements v items s t _ _ ih ihs =>
      intro r earlier around rest hr
      rw [List.append_assoc, List.cons_append, ih _ hr fun _ _ => by simp [Ends]]
      rw [Reader.read?_cons .comma nofun rfl, ihs rest .value]
      rw [List.reverse_cons, List.append_assoc, List.singleton_append]
  | @member name v w n w' s before quoted after _ ih =>
      intro r members around rest hr hrest
      have hname : r.read? ('"' :: (n ++ ['"']) ++ (w' ++ ':' :: (s ++ rest))) =
          (Reader.colon members name around).read? (w' ++ ':' :: (s ++ rest)) :=
        Reader.read?_append (.string quoted) nofun (hr.step? name)
      have hsplit : w ++ '"' :: (n ++ '"' :: (w' ++ ':' :: s)) ++ rest =
          w ++ ('"' :: (n ++ ['"']) ++ (w' ++ ':' :: (s ++ rest))) := by simp
      rw [hsplit, Reader.read?_gap before, hname, Reader.read?_gap after]
      rw [Reader.read?_cons .colon nofun rfl]
      exact ih rest .value fun _ _ => hrest
  | lastMember _ ih =>
      intro r earlier around rest hr
      rw [ih _ hr (by simp [Ends]), Reader.read?_cons .closeObject nofun rfl, List.reverse_cons]
  | moreMembers _ _ ih ihs =>
      intro r earlier around rest hr
      rw [List.append_assoc, List.cons_append, ih _ hr (by simp [Ends])]
      rw [Reader.read?_cons .comma nofun rfl, ihs rest .name]
      rw [List.reverse_cons, List.append_assoc, List.singleton_append]

/-! ### The documents of a text -/

theorem parse?_eq_read? (s : List Char) : parse? s = (Reader.value []).read? s := by
  unfold parse? Reader.read?
  cases tokens? s <;> rfl

/-- **A document is read exactly from its texts.** -/
theorem parse?_eq_some_iff {s : List Char} : parse? s = some document ↔ IsText document s := by
  constructor
  · intro h
    rw [parse?_eq_read?, Reader.read?, Option.bind_eq_some_iff] at h
    obtain ⟨tokens, htokens, hfinish⟩ := h
    have hcompletes := completes_of_finish? hfinish (spelled_of_tokens? htokens)
    cases hcompletes with
    | value element rest =>
        cases rest with
        | done gap => exact element.append_gap gap
  · intro h
    have hcarries : (Reader.value []).read? (s ++ []) = (Reader.ended document []).read? [] :=
      carries_of_derives h [] .value fun _ _ => by simp [Ends]
    rw [List.append_nil] at hcarries
    rw [parse?_eq_read?, hcarries, Reader.read?, tokens?]
    rfl

end CommandBot.Json
