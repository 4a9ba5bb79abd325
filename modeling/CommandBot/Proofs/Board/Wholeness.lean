/-
**A response is read as a whole or not at all.**

A response is written with brackets around it, so that its text ends where the last bracket closes.
What a broken connection leaves of it is unreadable, and so is a response with something else behind
it or before it: there are no parts of a list of images.  White space around a response is no part
of it.

Main definitions:

* `CommandBot.Board.Response.Mangled` — a text that was cut off or continued.

Main results:

* `CommandBot.Board.Response.parse_of_mangled`, `CommandBot.Board.Response.parse_of_preceded` —
  **such a text is unreadable**, and so is one with something before it;
* `CommandBot.Board.Response.parse_gap` — white space does not matter;
* `CommandBot.Board.Response.parse_wholly` — all of this, also for an answer over HTTP.
-/

import CommandBot.Board.Client
import CommandBot.Proofs.Board.Response
import CommandBot.Proofs.Json.Ending
import CommandBot.Proofs.Json.Nesting

set_option relaxedAutoImplicit false
set_option autoImplicit false

namespace CommandBot.Board.Response

open Json (IsText IsBracketed IsClosed)
open Json.Grammar (Gap)

/-! ### What is read -/

theorem isBracketed_of_gives {document : Json} {addresses : List (Option (List Char))}
    (h : Gives document addresses) : IsBracketed document := by
  cases h <;> trivial

theorem isClosed_of_isBracketed {document : Json} (h : IsBracketed document) :
    IsClosed document := by
  rintro digits rfl
  exact h

/-- What is read is the text of a bracketed document. -/
theorem exists_of_parse {body : String} {urls : List String} (h : parse body = .ok urls) :
    ∃ document, IsBracketed document ∧ IsText document body.toList := by
  obtain ⟨document, addresses, htext, hgives, -⟩ := exists_gives_of_parse h
  exact ⟨document, isBracketed_of_gives hgives, htext⟩

/-- The text of no bracketed document is unreadable. -/
theorem parse_of_forall_not {body : String}
    (h : ∀ document, IsBracketed document → ¬ IsText document body.toList) :
    parse body = .error .unreadable := by
  refine parse_of_not ?_
  rintro ⟨document, addresses, htext, hgives⟩
  exact h document (isBracketed_of_gives hgives) htext

/-- Two texts of the same bracketed documents are read alike. -/
theorem parse_congr {a b : String}
    (h : ∀ document, IsBracketed document →
      (IsText document a.toList ↔ IsText document b.toList)) : parse a = parse b := by
  by_cases hread : ∃ document addresses, IsText document a.toList ∧ Gives document addresses
  · obtain ⟨document, addresses, htext, hgives⟩ := hread
    have htext' := (h document (isBracketed_of_gives hgives)).1 htext
    rw [parse_of_gives htext hgives, parse_of_gives htext' hgives]
  · rw [parse_of_not hread, parse_of_not]
    rintro ⟨document, addresses, htext, hgives⟩
    have htext' := (h document (isBracketed_of_gives hgives)).2 htext
    exact hread ⟨document, addresses, htext', hgives⟩

/-! ### What is not -/

/-- A text of which something other than white space was cut off at the end, or to which something
other than white space was added there. -/
inductive Mangled (body : String) : String → Prop where
  | cut {front back : String} (whole : body = front ++ back) (lost : ¬ Gap back.toList) :
      Mangled body front
  | continued {more : String} (added : ¬ Gap more.toList) : Mangled body (body ++ more)

variable {body text : String} {urls : List String}

/-- **What was cut off or continued is unreadable.** -/
theorem parse_of_mangled (h : parse body = .ok urls) (hmangled : Mangled body text) :
    parse text = .error .unreadable := by
  obtain ⟨document, hbracketed, htext⟩ := exists_of_parse h
  refine parse_of_forall_not fun document' hbracketed' htext' => ?_
  cases hmangled with
  | cut whole lost =>
      rw [whole, String.toList_append] at htext
      exact lost (Json.gap_of_isText_append (isClosed_of_isBracketed hbracketed') htext' htext)
  | continued added =>
      rw [String.toList_append] at htext'
      exact added (Json.gap_of_isText_append (isClosed_of_isBracketed hbracketed) htext htext')

/-- **What something was put before is unreadable.** -/
theorem parse_of_preceded (h : parse body = .ok urls) {more : String} (hmore : ¬ Gap more.toList) :
    parse (more ++ body) = .error .unreadable := by
  obtain ⟨document, hbracketed, htext⟩ := exists_of_parse h
  refine parse_of_forall_not fun document' hbracketed' htext' => ?_
  rw [String.toList_append] at htext'
  exact hmore (Json.gap_of_append_isText hbracketed hbracketed' htext htext')

/-- White space around a text does not matter. -/
theorem parse_gap (body : String) {before after : String} (hbefore : Gap before.toList)
    (hafter : Gap after.toList) : parse (before ++ body ++ after) = parse body := by
  refine parse_congr fun document hbracketed => ?_
  rw [String.toList_append, String.toList_append,
    Json.isText_append_gap_iff (isClosed_of_isBracketed hbracketed) hafter,
    Json.isText_gap_append_iff hbefore]

/-! ### Answers over HTTP -/

theorem dropMark_append {s : List Char} (hs : s ≠ []) (t : List Char) :
    Text.dropMark (s ++ t) = Text.dropMark s ++ t := by
  cases s with
  | nil => exact absurd rfl hs
  | cons c s =>
      rw [List.cons_append, Text.dropMark, Text.dropMark]
      split
      · rfl
      · rfl

/-- The mark at the front does not matter to what becomes of the end. -/
theorem mangled_dropMark (htext : text ≠ "") (hbody : body ≠ "") (h : Mangled body text) :
    Mangled (String.ofList (Text.dropMark body.toList))
      (String.ofList (Text.dropMark text.toList)) := by
  have append_ofList : ∀ {s : String} (more : String), s ≠ "" →
      String.ofList (Text.dropMark (s ++ more).toList) =
        String.ofList (Text.dropMark s.toList) ++ more := by
    intro s more hs
    rw [String.toList_append, dropMark_append (by simpa using hs), String.ofList_append,
      String.ofList_toList]
  cases h with
  | @cut _ back whole lost =>
      have hwhole := append_ofList back htext
      rw [← whole] at hwhole
      exact .cut hwhole lost
  | @continued more added =>
      rw [append_ofList more hbody]
      exact .continued added

theorem parse_empty : parse "" = .error .unreadable := by decide +kernel

/-- An answer that was cut off or continued on its way is unreadable. -/
theorem outcome_of_mangled {status : Nat} (h : outcome (some ⟨status, body⟩) = .ok urls)
    (hmangled : Mangled body text) :
    outcome (some ⟨status, text⟩) = .error .unreadable := by
  rw [outcome] at h ⊢
  split at h
  · next hsuccess =>
      have hstatus : (HttpAnswer.mk status text).isSuccess = true := hsuccess
      rw [if_pos hstatus]
      have hbody : body ≠ "" := by
        rintro rfl
        have hempty : parse "" = .ok urls := h
        rw [parse_empty] at hempty
        cases hempty
      by_cases htext : text = ""
      · rw [htext]
        exact parse_empty
      · exact parse_of_mangled h (mangled_dropMark htext hbody hmangled)
  · cases h

/-- **A response is read as a whole or not at all.**  If a text is read, what is left of it when
anything visible is cut off at its end is unreadable, and so is the text with anything visible
behind it or before it; the same goes for the ends of answers over HTTP.  White space around any
text may be added and removed. -/
theorem parse_wholly :
    (∀ body urls, parse body = .ok urls →
      (∀ front back, body = front ++ back → ¬ Gap back.toList → parse front = .error .unreadable) ∧
      ∀ more, ¬ Gap more.toList →
        parse (body ++ more) = .error .unreadable ∧ parse (more ++ body) = .error .unreadable) ∧
    (∀ status body urls, outcome (some ⟨status, body⟩) = .ok urls →
      (∀ front back, body = front ++ back → ¬ Gap back.toList →
        outcome (some ⟨status, front⟩) = .error .unreadable) ∧
      ∀ more, ¬ Gap more.toList → outcome (some ⟨status, body ++ more⟩) = .error .unreadable) ∧
    ∀ body before after, Gap before.toList → Gap after.toList →
      parse (before ++ body ++ after) = parse body := by
  refine ⟨fun body urls h => ⟨?_, ?_⟩, fun status body urls h => ⟨?_, ?_⟩, ?_⟩
  · intro front back whole lost
    exact parse_of_mangled h (.cut whole lost)
  · intro more added
    exact ⟨parse_of_mangled h (.continued added), parse_of_preceded h added⟩
  · intro front back whole lost
    exact outcome_of_mangled h (.cut whole lost)
  · intro more added
    exact outcome_of_mangled h (.continued added)
  · intro body before after hbefore hafter
    exact parse_gap body hbefore hafter

/-- The end of a response is lost in the middle of its one address, a second response follows, a
byte order mark stands before it, and a line end on either side does no harm. -/
theorem parse_wholly_oneImage :
    parse "[[[\"https://a.b/1\"]]]" = .ok ["https://a.b/1"] ∧
    parse "[[[\"https://a" = .error .unreadable ∧
    parse ("[[[\"https://a.b/1\"]]]" ++ " []") = .error .unreadable ∧
    parse ("\ufeff" ++ "[[[\"https://a.b/1\"]]]") = .error .unreadable ∧
    outcome (some ⟨200, "\ufeff[[[\"https://a.b/1\"]]]"⟩) = .ok ["https://a.b/1"] ∧
    outcome (some ⟨200, "\ufeff[[[\"https://a"⟩) = .error .unreadable ∧
    outcome (some ⟨200, "\ufeff[[[\"https://a.b/1\"]]]" ++ "\x00"⟩) = .error .unreadable ∧
    parse ("\n" ++ "[[[\"https://a.b/1\"]]]" ++ "\r\n") = .ok ["https://a.b/1"] := by
  have hread : parse "[[[\"https://a.b/1\"]]]" = .ok ["https://a.b/1"] := by decide +kernel
  have hanswer : outcome (some ⟨200, "\ufeff[[[\"https://a.b/1\"]]]"⟩) = .ok ["https://a.b/1"] := by
    decide +kernel
  obtain ⟨hparse, houtcome, hspace⟩ := parse_wholly
  obtain ⟨hcut, hmore⟩ := hparse _ _ hread
  obtain ⟨hcut', hmore'⟩ := houtcome _ _ _ hanswer
  refine ⟨hread, ?_, ?_, ?_, hanswer, ?_, ?_, ?_⟩
  · exact hcut _ ".b/1\"]]]" (by decide) (by simp [Gap])
  · exact (hmore " []" (by simp [Gap])).1
  · exact (hmore "\ufeff" (by simp [Gap])).2
  · exact hcut' _ ".b/1\"]]]" (by decide) (by simp [Gap])
  · exact hmore' "\x00" (by simp [Gap])
  · rw [hspace _ "\n" "\r\n" (by simp [Gap]) (by simp [Gap])]
    exact hread

end CommandBot.Board.Response
