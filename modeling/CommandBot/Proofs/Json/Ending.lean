/-
**A document ends where its text ends.**

The reader is through with a value at its last character, unless the value is a number, which more
digits could continue.  So a text of any other document is no beginning of a longer text of a
document: cut off anywhere before its last visible character it is not complete, and only white
space may follow it.

Main results:

* `CommandBot.Json.gap_of_isText_append` — **only white space may follow the text of a document**
  that is no number;
* `CommandBot.Json.isText_gap_append_iff`, `CommandBot.Json.isText_append_gap_iff` — white space
  around a text may be added and removed.
-/

import CommandBot.Proofs.Json.Reading

set_option relaxedAutoImplicit false
set_option autoImplicit false

namespace CommandBot.Json

open Grammar

variable {d d' : Json} {s t w : List Char}

/-- A document that is no number, so that nothing that follows it can continue it. -/
def IsClosed (d : Json) : Prop := ∀ digits, d ≠ .number digits

/-! ### What may follow -/

/-- **Only white space may follow the text of a closed document**, if a document is to be read. -/
theorem gap_of_isText_append (hclosed : IsClosed d) (h : IsText d s)
    (hlonger : IsText d' (s ++ t)) : Gap t := by
  have hcarries : (Reader.value []).read? (s ++ t) = (Reader.ended d []).read? t :=
    carries_of_derives h t .value fun digits hnumber => absurd hnumber (hclosed digits)
  rw [← parse?_eq_some_iff, parse?_eq_read?, hcarries, Reader.read?,
    Option.bind_eq_some_iff] at hlonger
  obtain ⟨tokens, htokens, hfinish⟩ := hlonger
  have hcompletes := completes_of_finish? hfinish (spelled_of_tokens? htokens)
  cases hcompletes.closes with
  | done gap => exact gap

/-! ### White space -/

/-- White space before a text does not matter. -/
theorem isText_gap_append_iff (hw : Gap w) : IsText d (w ++ s) ↔ IsText d s := by
  rw [← parse?_eq_some_iff, ← parse?_eq_some_iff, parse?_eq_read?, parse?_eq_read?,
    Reader.read?_gap hw]

/-- A closed value ends with a visible character. -/
theorem IsClosed.exists_last (hclosed : IsClosed d) (h : Derives (.value d) s) :
    ∃ front c, s = front ++ [c] ∧ isGap c = false := by
  cases h with
  | null => exact ⟨"nul".toList, 'l', rfl, rfl⟩
  | true => exact ⟨"tru".toList, 'e', rfl, rfl⟩
  | false => exact ⟨"fals".toList, 'e', rfl, rfl⟩
  | number numeral => exact absurd rfl (hclosed s)
  | @string items s quoted => exact ⟨'"' :: s, '"', rfl, rfl⟩
  | @emptyArray w gap => exact ⟨'[' :: w, ']', rfl, rfl⟩
  | @array items s inside => exact ⟨'[' :: s, ']', rfl, rfl⟩
  | @emptyObject w gap => exact ⟨'\x7b' :: w, '\x7d', rfl, rfl⟩
  | @object members s inside => exact ⟨'\x7b' :: s, '\x7d', rfl, rfl⟩

/-- White space after the text of a closed document does not matter. -/
theorem isText_append_gap_iff (hclosed : IsClosed d) (hw : Gap w) :
    IsText d (s ++ w) ↔ IsText d s := by
  refine ⟨fun h => ?_, fun h => h.append_gap hw⟩
  generalize htext : s ++ w = text at h
  cases h with
  | @element _ before p after hbefore hvalue hafter =>
      rcases List.append_eq_append_iff.1 htext with ⟨rest, hfront, hgap⟩ | ⟨rest, rfl, rfl⟩
      · -- The value would end within the white space, unless it ends with the text.
        obtain ⟨front, c, rfl, hc⟩ := hclosed.exists_last hvalue
        rcases List.eq_nil_or_concat rest with rfl | ⟨rest, last, rfl⟩
        · rw [List.append_nil] at hfront
          rw [← hfront]
          have helement := Derives.element hbefore hvalue gap_nil
          rwa [List.append_nil] at helement
        · rw [← List.append_assoc, List.concat_eq_append, ← List.append_assoc] at hfront
          obtain ⟨-, hlast⟩ := List.append_inj' hfront rfl
          cases hlast
          have hmem : c ∈ w := by rw [hgap]; simp
          rw [isGap_eq_true_iff.2 (hw c hmem)] at hc
          cases hc
      · exact .element hbefore hvalue fun c hc => hafter c (List.mem_append_left w hc)

end CommandBot.Json
