/-
**What the fields of an expansion are.**

An expansion is made of stretches that stand as they are and of stretches in which blanks part fields.
Its fields are the longest parts without such a blank; blanks at the beginning, at the end and behind
one another make no empty fields.  What carries this is that no glyph changes what the fields come to:
those that were ended, and the parts of what is begun and still to come.

Main definitions:

* `CommandBot.Shell.Stretch` — a stretch of an expansion;
* `CommandBot.Shell.partsOf` — the longest parts without a separator;
* `CommandBot.Shell.Parting.total` — what the fields come to.

Main results:

* `CommandBot.Shell.Parting.total_next`, `CommandBot.Shell.Parting.total_region` — **a glyph leaves what
  the fields come to**, and so does a region;
* `CommandBot.Shell.fields_expansion` — **the fields are the longest parts without a separator.**
-/

import CommandBot.Shell.Field
import Mathlib.Data.List.Basic

set_option relaxedAutoImplicit false
set_option autoImplicit false

namespace CommandBot.Shell

/-! ### Parts -/

/-- A glyph, and whether it parts fields. -/
abbrev Mark := Glyph × Bool

/-- **The longest parts without a separator.** -/
def partsOf (marks : List Mark) : List (List Glyph) :=
  ((marks.splitOnP Prod.snd).map (List.map Prod.fst)).filter fun part => !part.isEmpty

/-- Glyphs of which none parts fields. -/
def unparted (glyphs : List Glyph) : List Mark := glyphs.map fun g => (g, false)

theorem splitOnP_unparted (glyphs : List Glyph) :
    (unparted glyphs).splitOnP Prod.snd = [unparted glyphs] := by
  induction glyphs with
  | nil => rfl
  | cons g glyphs ih =>
      have hrest : unparted (g :: glyphs) = (g, false) :: unparted glyphs := rfl
      rw [hrest, List.splitOnP_cons_eq_if_modifyHead, ih]
      rfl

theorem partsOf_unparted (glyphs : List Glyph) :
    partsOf (unparted glyphs) = if glyphs.isEmpty then [] else [glyphs] := by
  have hglyphs : (unparted glyphs).map Prod.fst = glyphs := by simp [unparted, Function.comp_def]
  rw [partsOf, splitOnP_unparted, List.map_singleton, hglyphs]
  cases glyphs with
  | nil => rfl
  | cons g glyphs => rfl

/-- A separator ends the part before it. -/
theorem partsOf_unparted_append (glyphs : List Glyph) (g : Glyph) (marks : List Mark) :
    partsOf (unparted glyphs ++ (g, true) :: marks) =
      partsOf (unparted glyphs) ++ partsOf marks := by
  rw [partsOf, List.splitOnP_append_cons _ _ rfl, List.map_append, List.filter_append]
  rfl

/-! ### Glyphs -/

/-- The separators where none are given. -/
def blanks : Separators := ⟨Separators.standard⟩

/-- A glyph that parts fields in a region. -/
def Glyph.isBlank (g : Glyph) : Bool := (g.char?.map Separators.isBlank).getD false

theorem ends_blanks (c : Char) : blanks.ends false c = Separators.isBlank c := rfl

namespace Parting

variable {p : Parting} {g : Glyph} {marks : List Mark}

/-- There may be any number of fields, and nothing is to be removed. -/
structure IsOpen (p : Parting) : Prop where
  left : p.left = none
  removal : p.removal = none
  arguments : p.afterArguments = false

theorem IsOpen.add (h : p.IsOpen) (g : Glyph) : (p.add g).IsOpen :=
  ⟨h.left, h.removal, h.arguments⟩

/-- After a blank no field is begun. -/
def IsSettled (p : Parting) : Prop := p.afterBlank = true → p.current = []

/-- **What the fields come to**: those that were ended, and the parts of what is begun and still to
come. -/
def total (p : Parting) (marks : List Mark) : List (List Glyph) :=
  p.fields.reverse ++ partsOf (unparted p.current.reverse ++ marks)

theorem total_start (marks : List Mark) : (start none).total marks = partsOf marks := rfl

theorem total_add (p : Parting) (g : Glyph) (marks : List Mark) :
    (p.add g).total marks = p.total ((g, false) :: marks) := by
  simp [total, add, unparted]

/-- **What is there in the end is what the fields come to.** -/
theorem result_eq (h : p.IsOpen) : p.result = p.total [] := by
  rw [result, h.arguments, h.removal, total, List.append_nil, partsOf_unparted]
  cases hcurrent : p.current with
  | nil => simp
  | cons g current => simp

theorem total_finish (p : Parting) (hcurrent : p.current ≠ []) (g : Glyph) (marks : List Mark) :
    (p.finish none).total marks = p.total ((g, true) :: marks) := by
  have hbegun : p.current.reverse.isEmpty = false := by simpa using hcurrent
  have hparts : partsOf (unparted p.current.reverse) = [p.current.reverse] := by
    rw [partsOf_unparted, hbegun, if_neg (by simp)]
  rw [total, total, partsOf_unparted_append, hparts, finish, List.reverse_cons, List.append_assoc]
  rfl

theorem total_pass (p : Parting) (hcurrent : p.current = []) (g : Glyph) (marks : List Mark) :
    p.total marks = p.total ((g, true) :: marks) := by
  rw [total, total, hcurrent, List.reverse_nil, partsOf_unparted_append]
  rfl

/-- What a glyph of a region does, by whether it is a blank and whether one was before it. -/
theorem next_eq (h : p.IsOpen) (g : Glyph) :
    next blanks false p g =
      if g.isBlank then if p.afterBlank then p else p.separate g true false
      else if p.afterBlank then { p with afterBlank := false }.add g else p.add g := by
  have hends : (g.char?.map (blanks.ends false)).getD false = g.isBlank := rfl
  have hblank : (g.char?.map Separators.isBlank).getD false = g.isBlank := rfl
  unfold next
  rw [hends, hblank]
  cases g.isBlank with
  | true => cases hafter : p.afterBlank with
    | true => simp [h.left]
    | false => simp [h.left]
  | false => cases hafter : p.afterBlank with
    | true => simp [h.left]
    | false => simp [h.left]

theorem separate_of_nil (h : p.IsOpen) (hcurrent : p.current = []) (g : Glyph) :
    p.separate g true false = { p with afterBlank := false } := by
  simp [separate, h.arguments, hcurrent]

theorem separate_of_ne_nil (h : p.IsOpen) (hcurrent : p.current ≠ []) (g : Glyph) :
    p.separate g true false = { p with afterBlank := true }.finish none := by
  have hbegun : p.current.isEmpty = false := by simpa using hcurrent
  simp [separate, h.arguments, h.left, hbegun]

/-- **A glyph of a region leaves what the fields come to.** -/
theorem total_next (h : p.IsOpen) (hsettled : p.IsSettled) (g : Glyph) (marks : List Mark) :
    (next blanks false p g).total marks = p.total ((g, g.isBlank) :: marks) ∧
      (next blanks false p g).IsOpen ∧ (next blanks false p g).IsSettled := by
  have hopen : IsOpen { p with afterBlank := false } := ⟨h.left, h.removal, h.arguments⟩
  rw [next_eq h]
  cases hmark : g.isBlank with
  | true =>
      rw [if_pos rfl]
      by_cases hafter : p.afterBlank = true
      · rw [if_pos hafter]
        exact ⟨total_pass p (hsettled hafter) g marks, h, hsettled⟩
      · rw [if_neg hafter]
        by_cases hcurrent : p.current = []
        · rw [separate_of_nil h hcurrent]
          exact ⟨total_pass { p with afterBlank := false } hcurrent g marks, hopen, fun _ => hcurrent⟩
        · rw [separate_of_ne_nil h hcurrent]
          exact ⟨total_finish { p with afterBlank := true } hcurrent g marks,
            ⟨rfl, h.removal, h.arguments⟩, fun _ => rfl⟩
  | false =>
      rw [if_neg (by simp)]
      by_cases hafter : p.afterBlank = true
      · rw [if_pos hafter]
        exact ⟨total_add { p with afterBlank := false } g marks, hopen.add g, fun hb => by cases hb⟩
      · rw [if_neg hafter]
        exact ⟨total_add p g marks, h.add g, fun hb => absurd hb hafter⟩

/-- **So does a region.** -/
theorem total_region (h : p.IsOpen) (glyphs : List Glyph) (marks : List Mark) :
    (p.region blanks false glyphs).total marks =
        p.total (glyphs.map (fun g => (g, g.isBlank)) ++ marks) ∧
      (p.region blanks false glyphs).IsOpen := by
  have hfold : ∀ p : Parting, p.IsOpen → p.IsSettled →
      (glyphs.foldl (next blanks false) p).total marks =
          p.total (glyphs.map (fun g => (g, g.isBlank)) ++ marks) ∧
        (glyphs.foldl (next blanks false) p).IsOpen := by
    induction glyphs with
    | nil => exact fun p hopen _ => ⟨rfl, hopen⟩
    | cons g glyphs ih =>
        intro p hopen hsettled
        obtain ⟨htotal, hopen', hsettled'⟩ :=
          total_next hopen hsettled g (glyphs.map (fun g => (g, g.isBlank)) ++ marks)
        obtain ⟨hrest, hdone⟩ := ih (next blanks false p g) hopen' hsettled'
        exact ⟨hrest.trans htotal, hdone⟩
  obtain ⟨htotal, hleft, hremoval, -⟩ := hfold { p with afterBlank := false }
    ⟨h.left, h.removal, h.arguments⟩ fun hb => by cases hb
  exact ⟨htotal, hleft, hremoval, rfl⟩

theorem total_foldl_add (h : p.IsOpen) (glyphs : List Glyph) (marks : List Mark) :
    (glyphs.foldl add p).total marks = p.total (unparted glyphs ++ marks) ∧
      (glyphs.foldl add p).IsOpen := by
  induction glyphs generalizing p with
  | nil => exact ⟨rfl, h⟩
  | cons g glyphs ih =>
      obtain ⟨htotal, hopen⟩ := ih (h.add g)
      exact ⟨htotal.trans (total_add p g _), hopen⟩

end Parting

/-! ### Stretches -/

/-- A stretch of an expansion, and whether blanks part fields in it. -/
structure Stretch where
  isParted : Bool
  glyphs : List Glyph

namespace Stretch

/-- The marks of a stretch. -/
def marks (stretch : Stretch) : List Mark :=
  stretch.glyphs.map fun g => (g, stretch.isParted && g.isBlank)

/-- The glyphs of some stretches. -/
def allGlyphs (stretches : List Stretch) : List Glyph := stretches.flatMap glyphs

/-- The regions of some stretches, from a place on. -/
def spans : Nat → List Stretch → List Span
  | _, [] => []
  | place, ⟨isParted, glyphs⟩ :: rest =>
      (if isParted then [⟨place, place + glyphs.length, false⟩] else []) ++
        spans (place + glyphs.length) rest

/-- What a stretch makes of fields that were begun. -/
def part (p : Parting) (stretch : Stretch) : Parting :=
  if stretch.isParted then p.region blanks false stretch.glyphs
  else stretch.glyphs.foldl Parting.add p

theorem total_part {p : Parting} (h : p.IsOpen) (stretch : Stretch) (marks : List Mark) :
    (stretch.part p).total marks = p.total (stretch.marks ++ marks) ∧ (stretch.part p).IsOpen := by
  obtain ⟨isParted, glyphs⟩ := stretch
  cases isParted with
  | true => exact Parting.total_region h glyphs marks
  | false => exact Parting.total_foldl_add h glyphs marks

theorem total_foldl_part {p : Parting} (h : p.IsOpen) (stretches : List Stretch)
    (marks : List Mark) :
    (stretches.foldl part p).total marks = p.total (stretches.flatMap Stretch.marks ++ marks) ∧
      (stretches.foldl part p).IsOpen := by
  induction stretches generalizing p with
  | nil => exact ⟨rfl, h⟩
  | cons stretch rest ih =>
      obtain ⟨hfirst, hopen⟩ := total_part h stretch (rest.flatMap Stretch.marks ++ marks)
      obtain ⟨hrest, hdone⟩ := ih hopen
      rw [List.flatMap_cons, List.append_assoc]
      exact ⟨hrest.trans hfirst, hdone⟩

/-- The regions are parted where they stand, and what is between them stays as it is. -/
theorem regions_spans (stretches : List Stretch) (place : Nat) (before : List Glyph) (p : Parting) :
    Parting.regions blanks (spans (place + before.length) stretches) place
        (before ++ allGlyphs stretches) p =
      stretches.foldl part (before.foldl Parting.add p) := by
  induction stretches generalizing place before p with
  | nil => simp [spans, allGlyphs, Parting.regions]
  | cons stretch rest ih =>
      obtain ⟨isParted, glyphs⟩ := stretch
      have hall : allGlyphs (⟨isParted, glyphs⟩ :: rest) = glyphs ++ allGlyphs rest := rfl
      rw [hall, List.foldl_cons, spans]
      cases isParted with
      | false =>
          have hlonger := ih place (before ++ glyphs) p
          rw [List.length_append, List.append_assoc, ← Nat.add_assoc, List.foldl_append] at hlonger
          exact hlonger
      | true =>
          have hgap : place + before.length - place = before.length := by omega
          have hlength : place + before.length + glyphs.length - (place + before.length) =
              glyphs.length := by omega
          have hplace : max place (place + before.length) + glyphs.length =
              place + before.length + glyphs.length := by omega
          have hrest := ih (place + before.length + glyphs.length) []
            ((before.foldl Parting.add p).region blanks false glyphs)
          rw [if_pos rfl, List.singleton_append, Parting.regions]
          dsimp only
          rw [hgap, hlength, hplace, List.take_left, List.drop_left, List.take_left, List.drop_left]
          exact hrest

/-- The expansion that some stretches make. -/
def expansion (stretches : List Stretch) : Expansion :=
  ⟨(allGlyphs stretches).toArray, (spans 0 stretches).toArray⟩

end Stretch

/-- **The fields are the longest parts without a separator.** -/
theorem fields_expansion (stretches : List Stretch) :
    (Stretch.expansion stretches).fields blanks none = partsOf (stretches.flatMap Stretch.marks) := by
  have hopen : (Parting.start none).IsOpen := ⟨rfl, rfl, rfl⟩
  obtain ⟨htotal, hdone⟩ := Stretch.total_foldl_part hopen stretches []
  have hregions := Stretch.regions_spans stretches 0 [] (.start none)
  rw [Expansion.fields, Stretch.expansion]
  dsimp only
  rw [List.nil_append, List.length_nil, List.foldl_nil] at hregions
  rw [hregions, Parting.result_eq hdone, htotal, List.append_nil, Parting.total_start]

/-- A quoted blank parts nothing. -/
example : (Stretch.expansion
    [⟨false, [.guarded 'a', .guarded ' ']⟩, ⟨true, [.plain 'b', .plain ' ', .plain 'c']⟩]).fields
      blanks none =
    [[.guarded 'a', .guarded ' ', .plain 'b'], [.plain 'c']] := by decide

end CommandBot.Shell
