/-
**Words in which nothing is looked up.**

A step of the shell goes through or stops, and the steps that it is made of are taken one after
another.  A word without expansions adds its glyphs to a field, and that is all it does: no octet of
it parts the field, a pattern without signs names no other file, and nothing changes.

Main definitions:

* `CommandBot.Shell.Exec.Does`, `CommandBot.Shell.Exec.Stops` — what a step comes to;
* `CommandBot.Shell.Word.ofGlyphs` — a word in which nothing is looked up.

Main results:

* `CommandBot.Shell.Exec.run_bind` — one step after another;
* `CommandBot.Shell.Pathname.matching_of_plain` — **a pattern without signs finds no files**;
* `CommandBot.Shell.fields_of_text` — what was expanded to a text is one field;
* `CommandBot.Shell.Expand.does_fields_ofGlyphs` — **such a word is its text**, and nothing changes.
-/

import CommandBot.Proofs.Shell.Pattern
import CommandBot.Shell.Expand

set_option relaxedAutoImplicit false
set_option autoImplicit false

namespace CommandBot.Shell

/-! ### Steps -/

namespace Exec

variable {α β : Type} {x : Exec α} {f : α → Exec β} {m m' m'' : Machine} {a : α} {b : β}
  {stop : Stop}

/-- A step goes through, with a result and in a state. -/
def Does (x : Exec α) (m : Machine) (a : α) (m' : Machine) : Prop := x.run.run m = (.ok a, m')

/-- A step stops, for a reason and in a state. -/
def Stops (x : Exec α) (m : Machine) (stop : Stop) (m' : Machine) : Prop :=
  x.run.run m = (.error stop, m')

/-- What a step after another comes to. -/
theorem run_bind (x : Exec α) (f : α → Exec β) (m : Machine) :
    (x >>= f).run.run m = match x.run.run m with
      | (.ok a, m') => (f a).run.run m'
      | (.error stop, m') => (.error stop, m') := by
  show StateT.run (ExceptT.bindCont f (x.run.run m).1) (x.run.run m).2 = _
  rcases x.run.run m with ⟨a | stop, m'⟩
  · rfl
  · rfl

theorem Does.result (a : α) (m : Machine) : Does (pure a) m a m := rfl

theorem Does.bind (h : Does x m a m') (h' : Does (f a) m' b m'') : Does (x >>= f) m b m'' := by
  rw [Does, run_bind, show x.run.run m = _ from h]
  exact h'

theorem Does.bind_stops (h : Does x m a m') (h' : Stops (f a) m' stop m'') :
    Stops (x >>= f) m stop m'' := by
  rw [Stops, run_bind, show x.run.run m = _ from h]
  exact h'

theorem Stops.bind (h : Stops x m stop m') : Stops (x >>= f) m stop m' := by
  rw [Stops, run_bind, show x.run.run m = _ from h]

theorem Does.attempt (h : Does x m a m') : Does (attempt x) m (.ok a) m' := by
  have hrun : (Exec.attempt x).run.run m = (.ok (x.run.run m).1, (x.run.run m).2) := rfl
  rw [Does, hrun, show x.run.run m = _ from h]

theorem Stops.attempt (h : Stops x m stop m') : Does (attempt x) m (.error stop) m' := by
  have hrun : (Exec.attempt x).run.run m = (.ok (x.run.run m).1, (x.run.run m).2) := rfl
  rw [Does, hrun, show x.run.run m = _ from h]

end Exec

/-! ### Paths -/

namespace Pathname

open Pattern

theorem hasSigns_cons {c : Char} (h : c ∉ signs) (part : Octets) :
    hasSigns (c :: part) = hasSigns part := by
  simp only [signs, List.mem_cons, List.not_mem_nil, or_false, not_or] at h
  obtain ⟨hstar, hmark, hbracket, hslash⟩ := h
  rw [hasSigns]
  · exact fun _ _ heq => absurd heq hslash
  · exact hstar
  · exact hmark
  · exact hbracket

/-- An octet that is no sign goes before the first part, or parts it from what comes before. -/
theorem forall_parts_plain {c : Char} (h : c ∉ signs) {s : Octets}
    (hs : ∀ part ∈ parts s, hasSigns part = false) :
    ∀ part ∈ parts (c :: s), hasSigns part = false := by
  by_cases hslash : c = '/'
  · subst hslash
    simpa [parts, hasSigns] using hs
  · have hback : c ≠ '\\' := by
      rintro rfl
      exact h (by decide)
    rw [parts]
    · cases hparts : parts s with
      | nil => simp [hasSigns_cons h, hasSigns]
      | cons first others =>
          rw [hparts] at hs
          simpa [hasSigns_cons h] using hs
    · exact hslash
    · exact fun _ heq => absurd heq hback
    · exact fun _ _ heq => absurd heq hback

theorem forall_parts_guarded (c : Char) {s : Octets}
    (hs : ∀ part ∈ parts s, hasSigns part = false) :
    ∀ part ∈ parts ('\\' :: c :: s), hasSigns part = false := by
  by_cases hslash : c = '/'
  · subst hslash
    simpa [parts, hasSigns] using hs
  · rw [parts]
    · cases hparts : parts s with
      | nil => simp [hasSigns]
      | cons first others =>
          rw [hparts] at hs
          simpa [hasSigns] using hs
    · exact hslash

/-- None of the parts of a pattern without signs is more than a name. -/
theorem hasSigns_of_plain {glyphs : List Glyph} (h : Plain glyphs) :
    ∀ part ∈ parts (glyphs.flatMap written), hasSigns part = false := by
  induction glyphs with
  | nil => simp [parts, hasSigns]
  | cons g glyphs ih =>
      rw [List.flatMap_cons]
      cases g with
      | plain c => exact forall_parts_plain (h c List.mem_cons_self) (ih h.tail)
      | guarded c => exact forall_parts_guarded c (ih h.tail)
      | quote => exact ih h.tail

/-- **A pattern without signs stands for itself**, whatever files there are. -/
theorem matching_of_plain (files : FileTree) {glyphs : List Glyph} (h : Plain glyphs) :
    matching files (ofGlyphs false glyphs) = [] := by
  rw [matching, ofGlyphs_of_plain h, if_neg]
  rw [List.any_eq_true]
  rintro ⟨part, hpart, hsigns⟩
  rw [hasSigns_of_plain h part hpart] at hsigns
  exact Bool.noConfusion hsigns

end Pathname

/-! ### Fields -/

/-- **What was expanded to nothing but text is one field**, unless it is empty. -/
theorem fields_of_text (separators : Separators) (glyphs : List Glyph) :
    (⟨glyphs.toArray, #[]⟩ : Expansion).fields separators none =
      if glyphs.isEmpty then [] else [glyphs] := by
  have hadd (p : Parting) : glyphs.foldl Parting.add p =
      { p with current := glyphs.reverse ++ p.current } := by
    induction glyphs generalizing p with
    | nil => rfl
    | cons g glyphs ih =>
        rw [List.foldl_cons, ih]
        simp [Parting.add]
  rw [Expansion.fields]
  show (glyphs.foldl Parting.add (.start none)).result = _
  rw [hadd]
  cases glyphs with
  | nil => rfl
  | cons g glyphs => simp [Parting.result, Parting.start]

/-! ### Words -/

/-- The piece that stands for a glyph. -/
def Piece.ofGlyph : Glyph → Piece
  | .plain c => .plain c
  | .guarded c => .guarded c
  | .quote => .quote

/-- A word with quotes and nothing that would have to be looked up. -/
def Word.ofGlyphs (glyphs : List Glyph) : Word := glyphs.map Piece.ofGlyph

theorem ofGlyphs_cons (g : Glyph) (glyphs : List Glyph) :
    Word.ofGlyphs (g :: glyphs) = Piece.ofGlyph g :: Word.ofGlyphs glyphs := rfl

namespace Expand

open Exec

theorem isArgumentList_ofGlyphs (glyphs : List Glyph) :
    isArgumentList (Word.ofGlyphs glyphs) = false := by
  cases glyphs with
  | nil => rfl
  | cons g glyphs => cases g <;> rfl

/-- The glyphs of a word are added one after another. -/
theorem does_pieces_ofGlyphs (capture : Capture) {glyphs : List Glyph} (h : .plain '~' ∉ glyphs)
    (p : Progress) (hp : p.passes = 0) (m : Machine) :
    Does (pieces capture .fields (Word.ofGlyphs glyphs) p) m (p.expansion.addAll glyphs) m := by
  induction glyphs generalizing p with
  | nil =>
      rw [Word.ofGlyphs, List.map_nil, pieces]
      exact Does.result _ _
  | cons g glyphs ih =>
      have hrest := ih fun hmem => h (List.mem_cons_of_mem g hmem)
      have hpasses : ¬ 0 < p.passes := by omega
      cases g with
      | plain c =>
          have hc : c ≠ '~' := by
            rintro rfl
            exact h List.mem_cons_self
          have hhome : (p.mayBeHome && c == '~') = false := by simp [hc]
          rw [ofGlyphs_cons, Piece.ofGlyph, pieces, if_neg hpasses, hhome,
            if_neg Bool.false_ne_true]
          exact .bind (.result _ _) (hrest _ hp)
      | guarded c =>
          rw [ofGlyphs_cons, Piece.ofGlyph, pieces, if_neg hpasses]
          exact hrest (p.add .fields (.guarded c)) hp
      | quote =>
          rw [ofGlyphs_cons, Piece.ofGlyph, pieces, if_neg hpasses, isArgumentList_ofGlyphs,
            Bool.and_false, if_neg Bool.false_ne_true]
          exact hrest { p.add .fields .quote with isQuoted := !(p.add .fields .quote).isQuoted } hp

theorem addAll_eq (e : Expansion) (glyphs : List Glyph) :
    e.addAll glyphs = ⟨e.glyphs ++ glyphs.toArray, e.spans⟩ := by
  induction glyphs generalizing e with
  | nil => simp [Expansion.addAll]
  | cons g glyphs ih =>
      have hstep : e.addAll (g :: glyphs) = (e.add g).addAll glyphs := rfl
      rw [hstep, ih]
      simp [Expansion.add]

/-- What a word is expanded to before anything else. -/
theorem addAll_begin (glyphs : List Glyph) :
    (Progress.begin .fields .empty).expansion.addAll glyphs = ⟨glyphs.toArray, #[]⟩ := by
  rw [addAll_eq]
  simp [Progress.begin, Expansion.empty]

/-- The separators are looked up, and nothing changes. -/
theorem exists_does_separators (m : Machine) :
    ∃ separators, Does Parameter.separators m separators m := ⟨_, rfl⟩

theorem does_isOn (switch : Switch) (m : Machine) :
    Does (isOn switch) m (m.own.switches.isOn switch) m := rfl

/-- **A word that means nothing is one field**, its text. -/
theorem does_fields_ofGlyphs (capture : Capture) {glyphs : List Glyph} (hne : glyphs ≠ [])
    (htilde : .plain '~' ∉ glyphs) (hplain : Pattern.Plain glyphs) (m : Machine) :
    Does (fields capture (Word.ofGlyphs glyphs)) m [Glyph.text glyphs] m := by
  have hexpansion := does_pieces_ofGlyphs capture htilde (.begin .fields .empty) rfl m
  rw [addAll_begin] at hexpansion
  have hfields (separators : Separators) :
      (⟨glyphs.toArray, #[]⟩ : Expansion).fields separators none = [glyphs] := by
    rw [fields_of_text, if_neg (by simpa using hne)]
  have hpaths : [glyphs].flatMap (paths m.streams.files) = [Glyph.text glyphs] := by
    rw [List.flatMap_singleton, paths, Pathname.matching_of_plain _ hplain]
  obtain ⟨separators, hseparators⟩ := exists_does_separators m
  refine .bind hexpansion (.bind hseparators (.bind (does_isOn .noglob m) ?_))
  rw [hfields]
  split
  · exact .result _ m
  · rw [← hpaths]
    exact .bind rfl (.result _ m)

end Expand

end CommandBot.Shell
