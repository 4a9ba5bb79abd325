/-
**What trimming leaves.**

Nothing is left of a text of white space, and of no other text.  What is left has no outer white
space, a text that has none is left as it is, and white space that is put around a text does not
count.

* `CommandBot.Text.IsTrimmed` — the texts without outer white space;
* `CommandBot.Text.trimChars_eq_nil_iff`, `CommandBot.Text.isEmpty_trim` — **the texts of which
  nothing is left**;
* `CommandBot.Text.isTrimmed_trimChars`, `CommandBot.Text.trimChars_of_isTrimmed` — what is left of
  the others;
* `CommandBot.Text.trimChars_pad` — **white space around a text does not count**;
* `CommandBot.Text.trimChars_append_cons` — each end is trimmed for itself if something stands
  between them;
* `CommandBot.Text.exists_pad_trimChars`, `CommandBot.Text.mem_trimChars_iff` — only white space is
  trimmed.
-/

import CommandBot.Text.Blank
import Mathlib.Data.List.DropRight
import Mathlib.Data.List.TakeWhile

set_option relaxedAutoImplicit false
set_option autoImplicit false

namespace CommandBot.Text

/-! ### Blank texts -/

/-- What stands before the trailing white space is there unless all of the text is white space. -/
theorem trimEndChars_eq_nil_iff {s : List Char} :
    trimEndChars s = [] ↔ ∀ c ∈ s, isSpace c = true := by
  simp [trimEndChars, List.dropWhile_eq_nil_iff]

/-- **Nothing is left of a text of white space**, and of no other text. -/
theorem trimChars_eq_nil_iff {s : List Char} :
    trimChars s = [] ↔ ∀ c ∈ s, isSpace c = true := by
  rw [trimChars, trimEndChars_eq_nil_iff, trimStartChars]
  induction s with
  | nil => simp
  | cons c rest ih =>
      cases hc : isSpace c with
      | false => simp [hc]
      | true => simp [hc, ih]

theorem isEmpty_trim (s : String) : (trim s).isEmpty = isBlank s := by
  rw [Bool.eq_iff_iff, String.isEmpty_iff, ← String.toList_eq_nil_iff, toList_trim,
    trimChars_eq_nil_iff, isBlank, List.all_eq_true]

theorem isBlank_append (s t : String) : isBlank (s ++ t) = (isBlank s && isBlank t) := by
  rw [isBlank, isBlank, isBlank, String.toList_append, List.all_append]

/-! ### One end -/

section Ends

variable {s front back : List Char} {c : Char}

theorem trimStartChars_append (h : ∀ c ∈ front, isSpace c = true) :
    trimStartChars (front ++ s) = trimStartChars s :=
  List.dropWhile_append_of_pos h

theorem trimStartChars_of_forall (h : ∀ c ∈ s, isSpace c = true) : trimStartChars s = [] :=
  List.dropWhile_eq_nil_iff.2 h

theorem trimStartChars_append_cons (hc : isSpace c = false) :
    trimStartChars (front ++ c :: back) = trimStartChars front ++ c :: back := by
  have hkept : trimStartChars (c :: back) = c :: back :=
    List.dropWhile_cons_of_neg (by simp [hc])
  rw [trimStartChars, List.dropWhile_append]
  split
  · next hblank =>
      rw [trimStartChars, List.isEmpty_iff.1 hblank]
      exact hkept
  · rfl

/-- Trimming at the end is trimming at the start of the text read backwards. -/
theorem trimEndChars_eq : trimEndChars s = (trimStartChars s.reverse).reverse := rfl

theorem trimEndChars_append (h : ∀ c ∈ back, isSpace c = true) :
    trimEndChars (s ++ back) = trimEndChars s := by
  rw [trimEndChars_eq, List.reverse_append, trimStartChars_append (by simpa using h)]
  rfl

theorem trimEndChars_append_cons (hc : isSpace c = false) :
    trimEndChars (front ++ c :: back) = front ++ c :: trimEndChars back := by
  rw [trimEndChars_eq, List.reverse_append, List.reverse_cons, List.append_assoc,
    List.singleton_append, trimStartChars_append_cons hc, List.reverse_append, List.reverse_cons,
    List.reverse_reverse, ← trimEndChars_eq, List.append_assoc, List.singleton_append]

/-- What is trimmed at the start is white space. -/
theorem exists_append_trimStartChars (s : List Char) :
    ∃ front, (∀ c ∈ front, isSpace c = true) ∧ s = front ++ trimStartChars s :=
  ⟨s.takeWhile isSpace, fun _ hc => List.mem_takeWhile_imp hc,
    List.takeWhile_append_dropWhile.symm⟩

/-- What is trimmed at the end is white space. -/
theorem exists_trimEndChars_append (s : List Char) :
    ∃ back, (∀ c ∈ back, isSpace c = true) ∧ s = trimEndChars s ++ back := by
  obtain ⟨front, hfront, h⟩ := exists_append_trimStartChars s.reverse
  refine ⟨front.reverse, by simpa using hfront, ?_⟩
  rw [trimEndChars_eq, ← List.reverse_append, ← h, List.reverse_reverse]

end Ends

/-! ### Both ends -/

section BothEnds

variable {s front back : List Char} {c : Char}

/-- **White space around a text does not count.** -/
theorem trimChars_pad (hfront : ∀ c ∈ front, isSpace c = true)
    (hback : ∀ c ∈ back, isSpace c = true) : trimChars (front ++ s ++ back) = trimChars s := by
  have hstart : trimChars (front ++ s ++ back) = trimChars (s ++ back) := by
    rw [trimChars, List.append_assoc, trimStartChars_append hfront]
    rfl
  rw [hstart]
  by_cases hblank : ∀ c ∈ s, isSpace c = true
  · rw [trimChars_eq_nil_iff.2 hblank, trimChars_eq_nil_iff]
    intro c hc
    rcases List.mem_append.1 hc with hc | hc
    · exact hblank c hc
    · exact hback c hc
  · -- Some character stays, and what is put behind it is trimmed at the end.
    have hsome : (s.dropWhile isSpace).isEmpty = false := by
      rwa [← Bool.not_eq_true, List.isEmpty_iff, List.dropWhile_eq_nil_iff]
    rw [trimChars, trimStartChars, List.dropWhile_append, hsome, if_neg Bool.false_ne_true,
      trimEndChars_append hback]
    rfl

theorem trimChars_append (hback : ∀ c ∈ back, isSpace c = true) :
    trimChars (s ++ back) = trimChars s :=
  trimChars_pad (List.forall_mem_nil _) hback

theorem trimChars_trimEndChars : trimChars (trimEndChars s) = trimChars s := by
  obtain ⟨back, hback, hs⟩ := exists_trimEndChars_append s
  have happend := trimChars_append (s := trimEndChars s) hback
  rwa [← hs, eq_comm] at happend

/-- **Each end is trimmed for itself** if a character that is not white space stands between
them. -/
theorem trimChars_append_cons (hc : isSpace c = false) :
    trimChars (front ++ c :: back) = trimStartChars front ++ c :: trimEndChars back := by
  rw [trimChars, trimStartChars_append_cons hc, trimEndChars_append_cons hc]

/-- A text without outer white space. -/
structure IsTrimmed (s : List Char) : Prop where
  head : ∀ c ∈ s.head?, isSpace c = false
  last : ∀ c ∈ s.getLast?, isSpace c = false

instance (s : List Char) : Decidable (IsTrimmed s) :=
  decidable_of_iff
    ((s.head?.all fun c => !isSpace c) = true ∧ (s.getLast?.all fun c => !isSpace c) = true) <| by
      simp only [Option.all_eq_true, Bool.not_eq_true']
      exact ⟨fun h => ⟨h.1, h.2⟩, fun h => ⟨h.head, h.last⟩⟩

theorem isTrimmed_of_forall (h : ∀ c ∈ s, isSpace c = false) : IsTrimmed s :=
  ⟨fun c hc => h c (List.mem_of_mem_head? hc), fun c hc => h c (List.mem_of_mem_getLast? hc)⟩

theorem isTrimmed_of_all (h : (s.all fun c => !isSpace c) = true) : IsTrimmed s :=
  isTrimmed_of_forall fun c hc => by simpa using List.all_eq_true.1 h c hc

theorem trimStartChars_of_isTrimmed (h : IsTrimmed s) : trimStartChars s = s := by
  cases s with
  | nil => rfl
  | cons c rest =>
      rw [trimStartChars, List.dropWhile_cons_of_neg]
      rw [h.head c rfl]
      exact Bool.false_ne_true

theorem isTrimmed_reverse_iff : IsTrimmed s.reverse ↔ IsTrimmed s := by
  constructor
  · intro h
    exact ⟨by simpa using h.last, by simpa using h.head⟩
  · intro h
    exact ⟨by simpa using h.last, by simpa using h.head⟩

/-- A text without outer white space is left as it is. -/
theorem trimChars_of_isTrimmed (h : IsTrimmed s) : trimChars s = s := by
  rw [trimChars, trimStartChars_of_isTrimmed h, trimEndChars_eq,
    trimStartChars_of_isTrimmed (isTrimmed_reverse_iff.2 h), List.reverse_reverse]

/-- What begins without white space does so after trimming at the end. -/
theorem head?_trimEndChars (h : ∀ c ∈ s.head?, isSpace c = false) :
    (trimEndChars s).head? = s.head? := by
  cases s with
  | nil => rfl
  | cons c rest =>
      have hkept : trimEndChars ([] ++ c :: rest) = [] ++ c :: trimEndChars rest :=
        trimEndChars_append_cons (h c rfl)
      rw [List.nil_append] at hkept
      rw [hkept]
      rfl

/-- **What is left has no outer white space.** -/
theorem isTrimmed_trimChars (s : List Char) : IsTrimmed (trimChars s) := by
  have hstart : ∀ t : List Char, ∀ c ∈ (trimStartChars t).head?, isSpace c = false := by
    intro t c hc
    have := List.head?_dropWhile_not isSpace t
    rw [trimStartChars] at hc
    rw [Option.mem_def.1 hc] at this
    exact this
  constructor
  · rw [trimChars, head?_trimEndChars (hstart s)]
    exact hstart s
  · rw [trimChars, trimEndChars_eq, List.getLast?_reverse]
    exact hstart _

theorem mem_of_mem_trimChars (h : c ∈ trimChars s) : c ∈ s := by
  rw [trimChars, trimEndChars_eq, List.mem_reverse] at h
  have hsub : ∀ t : List Char, c ∈ trimStartChars t → c ∈ t := fun t hc =>
    (List.dropWhile_suffix isSpace).subset hc
  exact hsub s (List.mem_reverse.1 (hsub _ h))

/-- A text is what is left of it with white space around. -/
theorem exists_pad_trimChars (s : List Char) :
    ∃ front back, (∀ c ∈ front, isSpace c = true) ∧ (∀ c ∈ back, isSpace c = true) ∧
      s = front ++ trimChars s ++ back := by
  obtain ⟨front, hfront, hstart⟩ := exists_append_trimStartChars s
  obtain ⟨back, hback, hend⟩ := exists_trimEndChars_append (trimStartChars s)
  refine ⟨front, back, hfront, hback, ?_⟩
  rw [trimChars, List.append_assoc, ← hend, ← hstart]

/-- Only white space is trimmed. -/
theorem mem_trimChars_iff (hc : isSpace c = false) : c ∈ trimChars s ↔ c ∈ s := by
  refine ⟨mem_of_mem_trimChars, fun h => ?_⟩
  obtain ⟨front, back, hfront, hback, hs⟩ := exists_pad_trimChars s
  rw [hs, List.mem_append, List.mem_append] at h
  rcases h with (h | h) | h
  · rw [hfront c h] at hc
    cases hc
  · exact h
  · rw [hback c h] at hc
    cases hc

/-- What is trimmed at the start first is trimmed anyway. -/
theorem trimChars_trimStartChars : trimChars (trimStartChars s) = trimChars s := by
  rw [trimChars, trimChars, trimStartChars, trimStartChars, List.dropWhile_idempotent]

end BothEnds

end CommandBot.Text
