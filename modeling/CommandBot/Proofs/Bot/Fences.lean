/-
**The fences around an output.**

An output of the host is shown between two fences.  A fence in the output itself would close the
block early, so every three marks in a row are broken up by a character without width.  The breaking
goes from left to right, three marks at a time, and leaves two of them at the end of each group: if
a fourth mark follows, it makes a new fence with them.  So an output is shown safely exactly if it
has no four marks in a row among the characters that are shown.

Main definitions:

* `CommandBot.Host.FenceAt` — a fence begins at a place of a text;
* `CommandBot.Host.FourMarksAt` — four marks in a row, from a place on, with none before them.

Main results:

* `CommandBot.Host.fenceAt_append_cons_iff` — a fence does not reach across another character;
* `CommandBot.Host.fourMarksAt_of_fenceAt`, `CommandBot.Host.fenceAt_of_fourMarksAt` — a broken text
  has a fence just after the place where the text has four marks;
* `CommandBot.Host.fenced_closes_once_iff` — **the texts that keep to their block**;
* `CommandBot.Host.fenced_fourMarks` — four marks do not.
-/

import CommandBot.Bot.Host
import Mathlib.Data.List.Basic

set_option relaxedAutoImplicit false
set_option autoImplicit false

namespace CommandBot.Host

/-! ### Places of fences -/

/-- A fence begins at a place of a text. -/
def FenceAt (s : List Char) (i : Nat) : Prop := fence <+: s.drop i

section Places

variable {s front back : List Char} {i : Nat} {c : Char}

/-- Three marks stand where a fence begins. -/
theorem fenceAt_iff : FenceAt s i ↔
    s[i]? = some fenceMark ∧ s[i + 1]? = some fenceMark ∧ s[i + 2]? = some fenceMark := by
  have hat : ∀ k, s[i + k]? = (s.drop i)[k]? := fun k => List.getElem?_drop.symm
  rw [FenceAt, hat 1, hat 2, ← Nat.add_zero i, hat 0, Nat.add_zero]
  generalize s.drop i = t
  match t with
  | [] => simp [fence]
  | [a] => simp [fence]
  | [a, b] => simp [fence]
  | a :: b :: d :: rest =>
      simp only [fence, List.cons_prefix_cons, List.nil_prefix, and_true,
        List.getElem?_cons_zero, List.getElem?_cons_succ, Option.some.injEq, eq_comm]

theorem FenceAt.length_le (h : FenceAt s i) : i + 3 ≤ s.length := by
  obtain ⟨hlast, -⟩ := List.getElem?_eq_some_iff.1 (fenceAt_iff.1 h).2.2
  omega

@[simp] theorem fenceAt_cons_succ : FenceAt (c :: s) (i + 1) ↔ FenceAt s i := Iff.rfl

/-- A fence after some characters is one of the rest. -/
theorem fenceAt_append_length_add : FenceAt (front ++ s) (front.length + i) ↔ FenceAt s i := by
  rw [FenceAt, FenceAt, ← List.drop_drop, List.drop_left]

/-- **A fence does not reach across another character.** -/
theorem fenceAt_append_cons_iff (hc : c ≠ fenceMark) :
    FenceAt (front ++ c :: back) i ↔
      FenceAt front i ∨ ∃ j, i = front.length + 1 + j ∧ FenceAt back j := by
  by_cases hbefore : i + 3 ≤ front.length
  · -- The fence lies before the character.
    have hsame : ∀ k < 3, (front ++ c :: back)[i + k]? = front[i + k]? := fun k hk =>
      List.getElem?_append_left (by omega)
    have hiff : FenceAt (front ++ c :: back) i ↔ FenceAt front i := by
      rw [fenceAt_iff, fenceAt_iff, hsame 1 (by omega), hsame 2 (by omega), ← Nat.add_zero i,
        hsame 0 (by omega), Nat.add_zero]
    rw [hiff, or_iff_left]
    rintro ⟨j, rfl, -⟩
    omega
  · rw [or_iff_right fun h => hbefore h.length_le]
    by_cases hafter : front.length + 1 ≤ i
    · -- The fence lies after the character.
      obtain ⟨j, rfl⟩ := Nat.exists_eq_add_of_le hafter
      have hiff : FenceAt (front ++ c :: back) (front.length + 1 + j) ↔ FenceAt back j := by
        rw [Nat.add_assoc, fenceAt_append_length_add, Nat.add_comm 1 j, fenceAt_cons_succ]
      rw [hiff]
      constructor
      · intro h
        exact ⟨j, rfl, h⟩
      · rintro ⟨j', hj, h⟩
        rwa [Nat.add_left_cancel hj]
    · -- The character itself would be one of the three marks.
      refine iff_of_false (fun h => ?_) fun ⟨j, hj, _⟩ => hafter (by omega)
      obtain ⟨h₀, h₁, h₂⟩ := fenceAt_iff.1 h
      have hmark : (front ++ c :: back)[front.length]? = some fenceMark := by
        rcases (by omega : front.length = i ∨ front.length = i + 1 ∨ front.length = i + 2) with
          hi | hi | hi
        · rwa [hi]
        · rwa [hi]
        · rwa [hi]
      rw [List.getElem?_append_right (Nat.le_refl _), Nat.sub_self,
        List.getElem?_cons_zero] at hmark
      exact hc (Option.some.inj hmark)

/-- The fences of a text that is cut off are those that lie before the cut. -/
theorem fenceAt_truncate_iff {limit : Nat} :
    FenceAt (Text.truncate limit s) i ↔ FenceAt s i ∧ i + 3 ≤ limit := by
  rcases Nat.lt_or_ge limit s.length with hlong | hshort
  · have hnil : ∀ j, ¬ FenceAt [] j := fun j h => by simpa using h.length_le
    have htake : FenceAt (s.take limit) i ↔ FenceAt s i ∧ i + 3 ≤ limit := by
      constructor
      · intro h
        have hlength := h.length_le
        rw [List.length_take] at hlength
        obtain ⟨h₀, h₁, h₂⟩ := fenceAt_iff.1 h
        rw [List.getElem?_take_of_lt (by omega)] at h₀ h₁ h₂
        exact ⟨fenceAt_iff.2 ⟨h₀, h₁, h₂⟩, by omega⟩
      · rintro ⟨h, hlimit⟩
        obtain ⟨h₀, h₁, h₂⟩ := fenceAt_iff.1 h
        refine fenceAt_iff.2 ⟨?_, ?_, ?_⟩
        · rwa [List.getElem?_take_of_lt (by omega)]
        · rwa [List.getElem?_take_of_lt (by omega)]
        · rwa [List.getElem?_take_of_lt (by omega)]
    rw [Text.truncate_of_lt_length hlong, fenceAt_append_cons_iff (by decide), htake, or_iff_left]
    rintro ⟨j, -, h⟩
    exact hnil j h
  · rw [Text.truncate_of_length_le hshort, and_iff_left_of_imp]
    exact fun h => Nat.le_trans h.length_le hshort

end Places

/-! ### Breaking fences -/

section Breaking

variable {s rest before after : List Char} {a : Char} {i : Nat}

@[simp] theorem breakFences_nil : breakFences [] = [] := rfl

/-- Three marks are broken up, and the breaking goes on after them. -/
theorem breakFences_fence_append :
    breakFences (fence ++ rest) =
      fenceMark :: zeroWidth :: fenceMark :: fenceMark :: breakFences rest := by
  simp [fence, breakFences]

/-- What does not begin with three marks keeps its first character. -/
theorem breakFences_cons (h : ¬ fence <+: a :: rest) :
    breakFences (a :: rest) = a :: breakFences rest := by
  match rest, h with
  | [], _ => rfl
  | [b], _ => rfl
  | b :: c :: rest, h =>
      rw [breakFences, if_neg]
      rintro ⟨rfl, rfl, rfl⟩
      exact h (List.prefix_append fence rest)

/-- A text is empty, or it begins with three marks, or it has another beginning. -/
theorem breakFences_induction {motive : List Char → Prop} (nil : motive [])
    (broken : ∀ rest, motive rest → motive (fence ++ rest))
    (kept : ∀ a rest, ¬ fence <+: a :: rest → motive rest → motive (a :: rest)) (s : List Char) :
    motive s := by
  induction hn : s.length using Nat.strongRecOn generalizing s with
  | ind n ih =>
      cases s with
      | nil => exact nil
      | cons a rest =>
          by_cases hfence : fence <+: a :: rest
          · obtain ⟨rest', hrest⟩ := hfence
            rw [← hrest] at hn ⊢
            refine broken rest' (ih rest'.length ?_ rest' rfl)
            simp only [fence, List.length_append, List.length_cons, List.length_nil] at hn
            omega
          · refine kept a rest hfence (ih rest.length ?_ rest rfl)
            rw [List.length_cons] at hn
            omega

/-- A broken text begins as the text does. -/
theorem head?_breakFences : (breakFences s).head? = s.head? := by
  induction s using breakFences_induction with
  | nil => rfl
  | broken rest _ => rw [breakFences_fence_append]; rfl
  | kept a rest h _ => rw [breakFences_cons h]; rfl

/-- If a broken text begins with two marks, so does the text. -/
theorem twoMarks_of_breakFences (h : [fenceMark, fenceMark] <+: breakFences s) :
    [fenceMark, fenceMark] <+: s := by
  induction s using breakFences_induction with
  | nil => exact h
  | broken rest _ => exact ⟨fenceMark :: rest, rfl⟩
  | kept a rest hnot _ =>
      rw [breakFences_cons hnot, List.cons_prefix_cons] at h
      obtain ⟨rfl, hsecond⟩ := h
      rw [List.cons_prefix_cons]
      refine ⟨rfl, ?_⟩
      have hhead : (breakFences rest).head? = some fenceMark := by
        obtain ⟨more, hmore⟩ := hsecond
        rw [← hmore]
        rfl
      rw [head?_breakFences] at hhead
      obtain ⟨more, rfl⟩ := List.head?_eq_some_iff.1 hhead
      exact ⟨more, rfl⟩

/-- **Four marks in a row, from a place on**, with none before them.  The place is that of the broken
text. -/
def FourMarksAt (s : List Char) (place : Nat) : Prop :=
  ∃ before after, s = before ++ fenceMark :: fence ++ after ∧
    before.getLast? ≠ some fenceMark ∧ (breakFences before).length = place

/-- The last character of a beginning of a fence is a mark. -/
theorem getLast?_of_prefix_fence (h : s <+: fence) (hne : s ≠ []) :
    s.getLast? = some fenceMark := by
  have hall : ∀ c ∈ fence, c = fenceMark := by simp [fence]
  rw [List.getLast?_eq_some_getLast hne]
  exact congrArg some (hall _ (h.subset (List.getLast_mem hne)))

/-- **Where no mark ends the first part, the parts of a text are broken each for itself.** -/
theorem breakFences_append (hlast : before.getLast? ≠ some fenceMark) :
    breakFences (before ++ rest) = breakFences before ++ breakFences rest := by
  induction before using breakFences_induction with
  | nil => rfl
  | broken front ih =>
      have hne : front ≠ [] := by
        rintro rfl
        exact hlast rfl
      rw [List.getLast?_append_of_ne_nil _ hne] at hlast
      rw [List.append_assoc, breakFences_fence_append, breakFences_fence_append, ih hlast]
      rfl
  | kept a front hnot ih =>
      have hfront : front.getLast? ≠ some fenceMark := by
        intro h
        rw [List.getLast?_cons, h] at hlast
        exact hlast rfl
      have hnot' : ¬ fence <+: a :: (front ++ rest) := by
        intro h
        rcases List.prefix_or_prefix_of_prefix h (List.prefix_append (a :: front) rest) with
          hfence | hfence
        · exact hnot hfence
        · exact hlast (getLast?_of_prefix_fence hfence (List.cons_ne_nil a front))
      rw [List.cons_append, breakFences_cons hnot', breakFences_cons hnot, ih hfront]
      rfl

/-- **Four marks leave a fence**, two characters after the place where they begin. -/
theorem fenceAt_of_fourMarksAt (h : FourMarksAt s i) : FenceAt (breakFences s) (i + 2) := by
  obtain ⟨before, after, rfl, hlast, rfl⟩ := h
  have hfour : breakFences (fenceMark :: fence ++ after) =
      fenceMark :: zeroWidth :: fenceMark :: fenceMark :: breakFences (fenceMark :: after) :=
    @breakFences_fence_append (fenceMark :: after)
  obtain ⟨more, hmore⟩ : ∃ more, breakFences (fenceMark :: after) = fenceMark :: more :=
    List.head?_eq_some_iff.1 head?_breakFences
  rw [List.append_assoc, breakFences_append hlast, fenceAt_append_length_add, hfour, hmore]
  exact ⟨more, rfl⟩

/-- **A fence in a broken text is left by four marks**, at that place or an earlier one. -/
theorem fourMarksAt_of_fenceAt (h : FenceAt (breakFences s) i) :
    ∃ place, FourMarksAt s place ∧ place + 2 ≤ i := by
  induction s using breakFences_induction generalizing i with
  | nil => simpa using h.length_le
  | broken rest ih =>
      -- If the rest begins with a mark, it is the fourth one.
      have hnext : rest.head? = some fenceMark → FourMarksAt (fence ++ rest) 0 := by
        intro hhead
        obtain ⟨more, rfl⟩ := List.head?_eq_some_iff.1 hhead
        exact ⟨[], more, rfl, nofun, rfl⟩
      rw [breakFences_fence_append] at h
      match i, h with
      | 0, h => exact absurd (Option.some.inj (fenceAt_iff.1 h).2.1) (by decide)
      | 1, h => exact absurd (Option.some.inj (fenceAt_iff.1 h).1) (by decide)
      | 2, h =>
          have hhead : (breakFences rest).head? = some fenceMark := by
            rw [List.head?_eq_getElem?]
            exact (fenceAt_iff.1 h).2.2
          exact ⟨0, hnext (head?_breakFences ▸ hhead), by omega⟩
      | 3, h =>
          have hhead : (breakFences rest).head? = some fenceMark := by
            rw [List.head?_eq_getElem?]
            exact (fenceAt_iff.1 h).2.1
          exact ⟨0, hnext (head?_breakFences ▸ hhead), by omega⟩
      | i + 4, h =>
          obtain ⟨_, ⟨before, after, rfl, hlast, rfl⟩, hplace⟩ := ih h
          cases before with
          | nil => exact ⟨0, hnext rfl, by omega⟩
          | cons b before =>
              refine ⟨_, ⟨fence ++ b :: before, after, by simp, ?_, rfl⟩, ?_⟩
              · rwa [List.getLast?_append_of_ne_nil _ (List.cons_ne_nil b before)]
              · rw [breakFences_fence_append]
                simp only [List.length_cons]
                omega
  | kept a rest hnot ih =>
      rw [breakFences_cons hnot] at h
      cases i with
      | zero =>
          -- Then the text itself would begin with three marks.
          rw [FenceAt, List.drop_zero, fence, List.cons_prefix_cons] at h
          obtain ⟨rfl, htwo⟩ := h
          exact absurd (List.cons_prefix_cons.2 ⟨rfl, twoMarks_of_breakFences htwo⟩) hnot
      | succ i =>
          obtain ⟨_, ⟨before, after, rfl, hlast, rfl⟩, hplace⟩ := ih (fenceAt_cons_succ.1 h)
          have hbefore : ¬ fence <+: a :: before := fun hfence =>
            hnot (hfence.trans (by simp))
          refine ⟨_, ⟨a :: before, after, by simp, ?_, rfl⟩, ?_⟩
          · cases before with
            | nil =>
                rintro ⟨⟩
                exact hnot ⟨fenceMark :: fenceMark :: after, rfl⟩
            | cons b before => rwa [List.getLast?_cons_cons]
          · rw [breakFences_cons hbefore, List.length_cons]
            omega

end Breaking

/-! ### Blocks -/

/-- Where fences begin in a block: at its start, at its end, and where its body has them. -/
theorem fenceAt_fenced_iff {text : String} {i : Nat} :
    FenceAt (fenced text).toList i ↔
      i = 0 ∨ (∃ j, i = j + 4 ∧ FenceAt (fencedBody text.toList) j) ∨
        i + 3 = (fenced text).toList.length := by
  have hfence : ∀ j, FenceAt fence j ↔ j = 0 := by
    intro j
    constructor
    · intro h
      have := h.length_le
      simp only [fence, List.length_cons, List.length_nil] at this
      omega
    · rintro rfl
      exact List.prefix_rfl
  have htext : (fenced text).toList =
      (fence ++ '\n' :: fencedBody text.toList) ++ '\n' :: fence := by
    simp [fenced]
  rw [htext, fenceAt_append_cons_iff (by decide), fenceAt_append_cons_iff (by decide), hfence,
    or_assoc]
  have hlength : fence.length = 3 := rfl
  refine or_congr_right (or_congr ?_ ?_)
  · refine exists_congr fun j => and_congr_left fun _ => ?_
    omega
  · simp only [hfence, List.length_append, List.length_cons]
    constructor
    · rintro ⟨j, rfl, rfl⟩
      omega
    · intro h
      exact ⟨0, by omega, rfl⟩

/-- **The texts that keep to their block.**  A block begins and ends with a fence.  It has no other
fence exactly if four marks in a row nowhere begin among the characters that are shown; the
last place where they would still matter is five characters before the limit. -/
theorem fenced_closes_once_iff (text : String) :
    FenceAt (fenced text).toList 0 ∧
      FenceAt (fenced text).toList ((fenced text).toList.length - 3) ∧
      ((∀ i, FenceAt (fenced text).toList i → i = 0 ∨ i + 3 = (fenced text).toList.length) ↔
        ∀ place, FourMarksAt text.toList place → shownLimit < place + 5) := by
  have hlength : 3 ≤ (fenced text).toList.length := by simp [fenced, fence]
  refine ⟨fenceAt_fenced_iff.2 (.inl rfl), fenceAt_fenced_iff.2 (.inr (.inr (by omega))), ?_, ?_⟩
  · intro honly place hfour
    by_contra hshown
    have hbody : FenceAt (fencedBody text.toList) (place + 2) :=
      fenceAt_truncate_iff.2 ⟨fenceAt_of_fourMarksAt hfour, by omega⟩
    have hend : (fenced text).toList.length = (fencedBody text.toList).length + 8 := by
      simp only [fenced, fence, String.toList_ofList, List.length_append, List.length_cons,
        List.length_nil]
      omega
    have hle := hbody.length_le
    rcases honly (place + 2 + 4) (fenceAt_fenced_iff.2 (.inr (.inl ⟨_, rfl, hbody⟩))) with h | h
    · omega
    · omega
  · intro hfour i hi
    rcases fenceAt_fenced_iff.1 hi with h | ⟨j, -, hj⟩ | h
    · exact .inl h
    · obtain ⟨hbroken, hlimit⟩ := fenceAt_truncate_iff.1 hj
      obtain ⟨place, hplace, hle⟩ := fourMarksAt_of_fenceAt hbroken
      have := hfour place hplace
      omega
    · exact .inr h

/-- Four marks and nothing else: the block has a third fence, which closes it early. -/
theorem fenced_fourMarks :
    ¬ ∀ text : String, ∀ i, FenceAt (fenced text).toList i ↔
      i = 0 ∨ i + 3 = (fenced text).toList.length := by
  intro h
  have hthird : FenceAt (fenced "\x60\x60\x60\x60").toList 6 := by
    unfold FenceAt
    decide
  have := (h "\x60\x60\x60\x60" 6).1 hthird
  revert this
  decide

end CommandBot.Host
