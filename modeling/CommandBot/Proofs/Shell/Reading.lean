/-
**Plain lines are read as they look.**

An octet that means only itself is read as a piece of the word it stands in, and a word of such
octets goes on up to the blank behind it.  So a line of plain words is one command, whose words they
are; a word can be more than a word only where a command may begin, if it is a keyword.  The sources
have no aliases here, since a command line begins without any.

Main definitions:

* `CommandBot.Shell.Reads` — what a reader makes of a source;
* `CommandBot.Shell.IsPlainWord`, `CommandBot.Shell.Word.ofPlain` — plain words, and what they are
  read as;
* `CommandBot.Shell.spaced` — words, each behind a blank;
* `CommandBot.Shell.Source.atEnd` — a source that was read to its end.

Main results:

* `CommandBot.Shell.Word.reads_letters`, `CommandBot.Shell.Word.reads_read` — **a plain word is read
  up to its end**;
* `CommandBot.Shell.Lexeme.reads_next_word` — it is a word, where it is no keyword;
* `CommandBot.Shell.Script.reads_simple`, `CommandBot.Shell.Script.reads_list` — the words of a
  command are read up to the end of the script;
* `CommandBot.Shell.Script.readLine_spaced` — **a line of plain words is one command of them.**
-/

import CommandBot.Shell.Script

set_option relaxedAutoImplicit false
set_option autoImplicit false

namespace CommandBot.Shell

/-! ### Readers -/

/-- What a reader makes of a source, and what it leaves of it. -/
def Reads {α : Type} (r : Reading α) (s : Source) (a : α) (s' : Source) : Prop :=
  r.run s = .ok (a, s')

namespace Reads

variable {α β : Type} {s s' s'' : Source} {a : α} {b : β}

theorem result (a : α) (s : Source) : Reads (pure a) s a s := rfl

theorem bind {r : Reading α} {f : α → Reading β} (h : Reads r s a s') (h' : Reads (f a) s' b s'') :
    Reads (r >>= f) s b s'' := by
  have hrun : (r >>= f).run s = r.run s >>= fun p => (f p.1).run p.2 := rfl
  rw [Reads, hrun, show r.run s = .ok (a, s') from h]
  exact h'

theorem state (s : Source) : Reads get s s s := rfl

theorem changed (f : Source → Source) (s : Source) : Reads (modify f) s () (f s) := rfl

end Reads

/-! ### Octets -/

/-- A source with nothing around what remains of its text. -/
def Source.resting (s : Source) (rest : Octets) : Source :=
  { s with passages := [⟨rest, [], false⟩], ended := [] }

namespace Reading

variable {c : Char}

theorem reads_leaveEnded (s : Source) (rest : Octets) :
    Reads leaveEnded (s.resting rest) () (s.resting rest) := by
  have hpart : partEnded [⟨rest, [], false⟩] = ([], [⟨rest, [], false⟩]) := by
    simp [partEnded]
  show Except.ok _ = Except.ok _
  simp [Source.resting, hpart]

theorem reads_take_cons (s : Source) (c : Char) (rest : Octets) :
    Reads take (s.resting (c :: rest)) (some c) (s.resting rest) :=
  .bind (reads_leaveEnded s _) rfl

theorem reads_take_nil (s : Source) : Reads take (s.resting []) none (s.resting []) :=
  .bind (reads_leaveEnded s _) rfl

theorem reads_takeJoined_cons (s : Source) (rest : Octets) (h : c ≠ '\\') :
    Reads takeJoined (s.resting (c :: rest)) (some c) (s.resting rest) := by
  refine .bind (reads_take_cons s c rest) ?_
  split
  · next heq => exact absurd (Option.some.inj heq) h
  · exact .result _ _

theorem reads_takeJoined_nil (s : Source) : Reads takeJoined (s.resting []) none (s.resting []) :=
  .bind (reads_take_nil s) (.result _ _)

theorem reads_takeJoined (s : Source) (rest : Octets) (h : rest.head? ≠ some '\\') :
    Reads takeJoined (s.resting rest) rest.head? (s.resting rest.tail) := by
  cases rest with
  | nil => exact reads_takeJoined_nil s
  | cons c rest => exact reads_takeJoined_cons s rest fun hc => h (congrArg some hc)

theorem reads_putBack (s : Source) (rest : Octets) :
    Reads (putBack rest.head?) (s.resting rest.tail) () (s.resting rest) := by
  cases rest with
  | nil => rfl
  | cons c rest => rfl

end Reading

/-! ### Plain words -/

/-- An octet that means only itself, wherever it stands in a word. -/
def isPlain (c : Char) : Bool :=
  (Region.bare.meaning c == .itself || Region.bare.meaning c == .guarded) &&
    !"\x00#*?[~=".toList.contains c

/-- A word of octets that mean only themselves. -/
def IsPlainWord (w : Octets) : Prop := w ≠ [] ∧ ∀ c ∈ w, isPlain c = true

/-- The piece that a plain octet is read as. -/
def Piece.ofOctet (c : Char) : Piece := if Region.isMark c then .guarded c else .plain c

/-- The word that plain octets are read as. -/
def Word.ofPlain (w : Octets) : Word := w.map Piece.ofOctet

namespace Word

open Reading

variable {c : Char} {w rest : Octets}

theorem ne_of_isPlain {d : Char} (h : isPlain c = true) (hd : isPlain d = false) : c ≠ d := by
  rintro rfl
  rw [h] at hd
  exact Bool.noConfusion hd

/-- Outside of quotes nothing is guarded but what would be taken for a mark. -/
theorem meaning_ne_guarded (h : Region.isMark c = false) : Region.bare.meaning c ≠ .guarded := by
  simp only [Region.meaning, h, Bool.false_eq_true, if_false]
  split
  · simp
  · split
    iterate 6 simp
    split
    · simp
    · simp

/-- A plain octet is read as itself, or as one that is guarded. -/
theorem meaning_of_isPlain (h : isPlain c = true) :
    Region.bare.meaning c = if Region.isMark c then .guarded else .itself := by
  have hmeaning : Region.bare.meaning c = .itself ∨ Region.bare.meaning c = .guarded := by
    simp only [isPlain, Bool.and_eq_true, Bool.or_eq_true, beq_iff_eq] at h
    exact h.1
  cases hmark : Region.isMark c with
  | true => simp [Region.meaning, hmark]
  | false => exact hmeaning.resolve_right (meaning_ne_guarded hmark)

/-- The draft of a word outside of quotes to which pieces were added. -/
def draftOf (pieces : List Piece) : Draft := ⟨.ofRegion .bare, [], pieces, [], false⟩

theorem step_plain (l : Lexeme.Surroundings) (pieces : List Piece) (s : Source)
    (h : isPlain c = true) :
    Reads (step (l.forWord false) (draftOf pieces) c) s
      (draftOf (Piece.ofOctet c :: pieces)) s := by
  unfold step Piece.ofOctet
  rw [show (draftOf pieces).layer.region = .bare from rfl, meaning_of_isPlain h]
  cases Region.isMark c with
  | true => exact .result _ s
  | false => exact .result _ s

theorem endsHere_plain (pieces : List Piece) (h : isPlain c = true) :
    endsHere (draftOf pieces) c = false := by
  unfold endsHere
  rw [show (draftOf pieces).layer.region = .bare from rfl, meaning_of_isPlain h]
  cases Region.isMark c with
  | true => rfl
  | false => rfl

/-- A text ends a word that stands before it: it is empty, or begins with a blank. -/
def EndsWord (rest : Octets) : Prop := rest = [] ∨ ∃ t, rest = ' ' :: t

theorem EndsWord.head?_ne (h : EndsWord rest) {c : Char} (hc : c ≠ ' ') : rest.head? ≠ some c := by
  rcases h with rfl | ⟨t, rfl⟩
  · simp
  · simpa using hc.symm

theorem reads_letters_end (l : Lexeme.Surroundings) (n : Nat) (pieces : List Piece)
    (s : Source) (h : EndsWord rest) :
    Reads (letters (l.forWord false) (n + 1) false rest.head? (draftOf pieces))
      (s.resting rest.tail) (draftOf pieces, rest.head?) (s.resting rest.tail) := by
  rcases h with rfl | ⟨t, rfl⟩
  · rfl
  · rfl

theorem reads_next (pieces : List Piece) (s : Source) (rest : Octets)
    (h : rest.head? ≠ some '\\') :
    Reads (next (draftOf pieces)) (s.resting rest) rest.head? (s.resting rest.tail) := by
  unfold next
  rw [show (draftOf pieces).layer.region = .bare from rfl, if_neg (by decide)]
  exact reads_takeJoined s rest h

/-- One octet of a plain word is read, and what comes after it. -/
theorem reads_letters_step (l : Lexeme.Surroundings) (n : Nat) (pieces : List Piece) (s : Source)
    {a : Draft × Option Char} {s' : Source} (hc : isPlain c = true) (h : rest.head? ≠ some '\\')
    (hrest : Reads (letters (l.forWord false) n false rest.head?
      (draftOf (Piece.ofOctet c :: pieces))) (s.resting rest.tail) a s') :
    Reads (letters (l.forWord false) (n + 1) false (some c) (draftOf pieces)) (s.resting rest)
      a s' := by
  have hline : (c == '\n') = false := beq_false_of_ne (ne_of_isPlain hc (by decide))
  unfold letters
  refine .bind (.result _ _) ?_
  dsimp only
  rw [endsHere_plain pieces hc, if_neg Bool.false_ne_true]
  refine .bind (step_plain l pieces _ hc) (.bind (reads_next _ s rest h) ?_)
  rw [hline, Bool.false_and]
  exact hrest

/-- **The octets of a plain word are read up to its end.** -/
theorem reads_letters (l : Lexeme.Surroundings) {n : Nat} (s : Source) (hrest : EndsWord rest)
    (hc : isPlain c = true) (hw : ∀ d ∈ w, isPlain d = true) (hn : w.length + 2 ≤ n)
    (pieces : List Piece) :
    Reads (letters (l.forWord false) n false (some c) (draftOf pieces)) (s.resting (w ++ rest))
      (draftOf ((ofPlain (c :: w)).reverse ++ pieces), rest.head?) (s.resting rest.tail) := by
  -- The first octet is in the reader's hand already; the induction is on those behind it.
  induction w generalizing c n pieces with
  | nil =>
      obtain ⟨n, rfl⟩ : ∃ m, n = m + 2 := ⟨n - 2, by simp at hn; omega⟩
      exact reads_letters_step l (n + 1) pieces s hc (hrest.head?_ne (by decide))
        (reads_letters_end l n _ s hrest)
  | cons d w ih =>
      obtain ⟨n, rfl⟩ : ∃ m, n = m + 1 := ⟨n - 1, by simp at hn; omega⟩
      have hd : isPlain d = true := hw d List.mem_cons_self
      have hnext : (d :: w ++ rest).head? ≠ some '\\' := by
        simpa using ne_of_isPlain hd (by decide)
      refine reads_letters_step l n pieces s hc hnext ?_
      have hmore := ih hd (fun e he => hw e (List.mem_cons_of_mem d he))
        (by simp at hn; omega) (Piece.ofOctet c :: pieces)
      rw [show (ofPlain (c :: d :: w)).reverse ++ pieces =
        (ofPlain (d :: w)).reverse ++ (Piece.ofOctet c :: pieces) by simp [ofPlain]]
      exact hmore

theorem checkClosed_draftOf (l : Lexeme.Surroundings) (pieces : List Piece) (s : Source) :
    Reads (checkClosed (l.forWord false) (draftOf pieces)) s () s := rfl

/-- **A plain word is read as such**, up to its end. -/
theorem reads_read (l : Lexeme.Surroundings) (s : Source) (hrest : EndsWord rest)
    (hc : isPlain c = true) (hw : ∀ d ∈ w, isPlain d = true) (hl : w.length + 2 ≤ l.fuel) :
    Reads (read (l.forWord false) c) (s.resting (w ++ rest)) (.word (ofPlain (c :: w)) false)
      ({ s with lastWord := ofPlain (c :: w) }.resting rest) := by
  have hletters := reads_letters l s hrest hc hw hl []
  rw [List.append_nil] at hletters
  refine .bind hletters (.bind (checkClosed_draftOf l _ _) ?_)
  have hword : (draftOf (ofPlain (c :: w)).reverse).word = ofPlain (c :: w) :=
    List.reverse_reverse _
  rcases hrest with rfl | ⟨t, rfl⟩
  · dsimp only [List.head?]
    refine .bind (reads_putBack s []) (.bind (.changed _ _) ?_)
    rw [hword]
    exact .result _ _
  · dsimp only [List.head?]
    refine .bind (reads_putBack s (' ' :: t)) (.bind (.changed _ _) ?_)
    rw [hword]
    exact .result _ _

end Word

/-! ### Tokens -/

namespace Lexeme

open Reading Word

variable {c : Char} {w rest : Octets} {l : Surroundings}

theorem reads_scan_plain (l : Surroundings) (n : Nat) (s : Source) (hrest : EndsWord rest)
    (he : s.expectation.delimiter = false)
    (hc : isPlain c = true) (hw : ∀ d ∈ w, isPlain d = true) (hl : w.length + 2 ≤ l.fuel) :
    Reads (scan l (n + 1)) (s.resting (c :: w ++ rest)) (.word (ofPlain (c :: w)) false)
      ({ s with lastWord := ofPlain (c :: w) }.resting rest) := by
  unfold scan
  refine .bind (reads_takeJoined_cons s _ (ne_of_isPlain hc (by decide))) ?_
  dsimp only
  -- None of the signs that begin a token of their own is plain.
  split
  iterate 9 exact absurd hc (by decide)
  refine .bind (.state _) ?_
  show Reads (Word.read (l.forWord s.expectation.delimiter) c) _ _ _
  rw [he]
  exact reads_read l s hrest hc hw hl

theorem reads_scan_blank (l : Surroundings) (n : Nat) (s : Source) {a : Token} {s' : Source}
    (h : Reads (scan l n) (s.resting rest) a s') :
    Reads (scan l (n + 1)) (s.resting (' ' :: rest)) a s' :=
  .bind (reads_takeJoined_cons s rest (by decide)) h

theorem reads_scan_end (l : Surroundings) (n : Nat) (s : Source) :
    Reads (scan l (n + 1)) (s.resting []) .ended (s.resting []) :=
  .bind (reads_takeJoined_nil s) (.result _ _)

theorem eq_of_literal?_ofPlain {text : Octets} (h : (ofPlain w).literal? = some text) :
    text = w := by
  induction w generalizing text with
  | nil => exact (Option.some.inj h).symm
  | cons c w ih =>
      rw [ofPlain, List.map_cons, Piece.ofOctet] at h
      split at h
      · cases h
      · obtain ⟨t, ht, rfl⟩ := Option.map_eq_some_iff.1 h
        rw [ih ht]

theorem reads_advance_ahead (l : Surroundings) (s : Source) (token : Token)
    (h : s.ahead = some token) : Reads (advance l) s token { s with ahead := none } := by
  refine .bind (.state s) ?_
  rw [h]
  exact .bind (.changed _ s) (.result _ _)

theorem reads_advance_scan {s s' : Source} {token : Token}
    (hscan : Reads (scan l l.fuel) s token s') (h : s.ahead = none) :
    Reads (advance l) s token s' := by
  refine .bind (.state s) ?_
  rw [h]
  exact hscan

/-- A text is no keyword where one is expected. -/
def IsNoKeyword (e : Expectation) (w : Octets) : Prop :=
  e.keywords = true → String.ofList w ∉ keywords

theorem keyword?_eq_none {e : Expectation} (h : IsNoKeyword e w) : keyword? e w = none := by
  unfold keyword?
  cases hkeywords : e.keywords with
  | false => simp
  | true => simpa using h hkeywords

theorem reads_alias?_of_none (s : Source) (name : Octets) (h : s.aliases = Table.empty) :
    Reads (alias? name) s none s := by
  refine .bind (.state s) ?_
  split
  · exact .result _ _
  · rw [h]
    exact .result _ _

/-- **A word is taken for a word** where it is neither a keyword nor an alias. -/
theorem reads_next_word {s s' : Source} {token : Token} (hl : l.fuel ≠ 0)
    (h : Reads (advance l) s token s') (htoken : token = .word (ofPlain w) false)
    (hlines : s.expectation.skipsLines = false) (hkeyword : IsNoKeyword s.expectation w)
    (haliases : s'.aliases = Table.empty) :
    Reads (next l) s token { s' with expectation := .plain } := by
  obtain ⟨n, hn⟩ := Nat.exists_eq_succ_of_ne_zero hl
  refine .bind (.state s) ?_
  rw [hn]
  refine .bind h ?_
  rw [hlines, if_neg Bool.false_ne_true]
  refine .bind (.result _ _) (.bind (.state _) (.bind (.changed _ _) ?_))
  subst htoken
  dsimp only
  cases hliteral : (ofPlain w).literal? with
  | none => exact .result _ _
  | some text =>
      obtain rfl := eq_of_literal?_ofPlain hliteral
      dsimp only
      rw [keyword?_eq_none hkeyword]
      dsimp only
      split
      · exact .result _ _
      · exact .bind (reads_alias?_of_none _ text haliases) (.result _ _)

theorem reads_next_ended {s s' : Source} (hl : l.fuel ≠ 0)
    (h : Reads (advance l) s .ended s') (hlines : s.expectation.skipsLines = false) :
    Reads (next l) s .ended { s' with expectation := .plain } := by
  obtain ⟨n, hn⟩ := Nat.exists_eq_succ_of_ne_zero hl
  refine .bind (.state s) ?_
  rw [hn]
  refine .bind h ?_
  rw [hlines, if_neg Bool.false_ne_true]
  exact .bind (.result _ _) (.bind (.state _) (.bind (.changed _ _) (.result _ _)))

end Lexeme

/-! ### Commands -/

/-- Some words, each after a blank. -/
def spaced (ws : List Octets) : Octets := ws.flatMap fun w => ' ' :: w

/-- A source that was read to its end, which is put back. -/
def Source.atEnd (s : Source) (last : Word) : Source :=
  { s with ahead := some .ended, expectation := .plain, lastWord := last }.resting []

theorem Word.endsWord_spaced (ws : List Octets) : Word.EndsWord (spaced ws) := by
  cases ws with
  | nil => exact .inl rfl
  | cons w ws => exact .inr ⟨_, rfl⟩

/-- A name that is read of a plain word comes before no sign of equality. -/
theorem Word.assignment?_ofPlain {w : Octets} (h : ∀ c ∈ w, isPlain c = true) :
    (Word.ofPlain w).assignment? = none := by
  have hspan : ∀ value, (Word.spanName (Word.ofPlain w)).2 ≠ .plain '=' :: value := by
    induction w with
    | nil => simp [Word.ofPlain, Word.spanName]
    | cons c w ih =>
        intro value
        have hc := h c List.mem_cons_self
        rw [Word.ofPlain, List.map_cons, Piece.ofOctet]
        split
        · simp [Word.spanName]
        · rw [Word.spanName]
          split
          · exact ih (fun d hd => h d (List.mem_cons_of_mem c hd)) value
          · simpa using fun heq => absurd heq (ne_of_isPlain hc (by decide))
  unfold Word.assignment?
  split
  · next name value heq => exact absurd (congrArg Prod.snd heq) (hspan value)
  · rfl

namespace Script

open Reading Lexeme

variable {r : Readers} {w : Octets} {ws : List Octets}

/-- A plain word is read where it may be no keyword. -/
theorem reads_nextAs_word (e : Expectation) (s : Source) {rest : Octets}
    (hrest : Word.EndsWord rest) (hw : IsPlainWord w) (hl : w.length + 2 ≤ r.fuel)
    (hahead : s.ahead = none) (haliases : s.aliases = Table.empty) (hlines : e.skipsLines = false)
    (hdelimiter : e.delimiter = false) (hkeyword : IsNoKeyword e w) :
    Reads (nextAs r e) (s.resting (w ++ rest)) (.word (Word.ofPlain w) false)
      ({ s with expectation := .plain, lastWord := Word.ofPlain w }.resting rest) ∧
    Reads (nextAs r e) (s.resting (' ' :: w ++ rest)) (.word (Word.ofPlain w) false)
      ({ s with expectation := .plain, lastWord := Word.ofPlain w }.resting rest) := by
  obtain ⟨hne, hplain⟩ := hw
  obtain ⟨c, w, rfl⟩ := List.exists_cons_of_ne_nil hne
  have hscan (n : Nat) := reads_scan_plain r.surroundings n { s with expectation := e } hrest
    hdelimiter (hplain c List.mem_cons_self) (fun d hd => hplain d (List.mem_cons_of_mem c hd))
    (by simp at hl; exact Nat.le_of_succ_le hl)
  -- A blank before the word takes one more step than the word alone.
  obtain ⟨n, hn⟩ : ∃ n, r.fuel = n + 2 := ⟨r.fuel - 2, by omega⟩
  have hsteps : r.surroundings.fuel = n + 2 := hn
  have hnext {text : Octets} (h : Reads (scan r.surroundings r.surroundings.fuel)
      ({ s with expectation := e }.resting text) (.word (Word.ofPlain (c :: w)) false)
      ({ s with expectation := e, lastWord := Word.ofPlain (c :: w) }.resting rest)) :
      Reads (nextAs r e) (s.resting text) (.word (Word.ofPlain (c :: w)) false)
        ({ s with expectation := .plain, lastWord := Word.ofPlain (c :: w) }.resting rest) := by
    have hadvance := reads_advance_scan h hahead
    exact .bind (.changed _ _) (reads_next_word (by omega) hadvance rfl hlines hkeyword haliases)
  refine ⟨hnext ?_, hnext ?_⟩
  · rw [hsteps]
    exact hscan (n + 1)
  · rw [hsteps]
    exact reads_scan_blank _ _ _ (hscan n)

/-- Behind the name of a command nothing is a keyword. -/
theorem isNoKeyword_plain (w : Octets) : IsNoKeyword .plain w := fun h => Bool.noConfusion h

/-- The end of the script is read. -/
theorem reads_nextAs_end (e : Expectation) (s : Source) (hl : 0 < r.fuel) (hahead : s.ahead = none)
    (hlines : e.skipsLines = false) :
    Reads (nextAs r e) (s.resting []) .ended ({ s with expectation := .plain }.resting []) := by
  obtain ⟨n, hn⟩ : ∃ n, r.surroundings.fuel = n + 1 :=
    Nat.exists_eq_succ_of_ne_zero (Nat.ne_of_gt hl)
  have hscan := reads_scan_end r.surroundings n { s with expectation := e }
  rw [← hn] at hscan
  have hadvance := reads_advance_scan hscan hahead
  exact .bind (.changed _ _) (reads_next_ended (by omega) hadvance hlines)

/-- **The words of a command are read up to the end of the script.** -/
theorem reads_simple (line : Nat) {n : Nat} (c : Simple) (s : Source) (hc : c.words ≠ [])
    (hws : ∀ w ∈ ws, IsPlainWord w ∧ w.length + 2 ≤ r.fuel) (hn : ws.length < n)
    (hl : 0 < r.fuel) (hahead : s.ahead = none) (haliases : s.aliases = Table.empty) :
    ∃ last, Reads (simple r line n c) (s.resting (spaced ws))
      ({ c with words := (ws.map Word.ofPlain).reverse ++ c.words }.node line) (s.atEnd last) := by
  induction ws generalizing c s n with
  | nil =>
      obtain ⟨n, rfl⟩ : ∃ m, n = m + 1 := Nat.exists_eq_succ_of_ne_zero (Nat.ne_of_gt hn)
      refine ⟨s.lastWord, .bind (reads_nextAs_end _ s hl hahead rfl) ?_⟩
      exact .bind (.result _ _) (.bind (.changed _ _) (.result _ _))
  | cons w ws ih =>
      obtain ⟨n, rfl⟩ : ∃ m, n = m + 1 := ⟨n - 1, by simp at hn; omega⟩
      obtain ⟨hw, hlength⟩ := hws w List.mem_cons_self
      have hword := (reads_nextAs_word { Expectation.plain with aliases := c.words.isEmpty } s
        (Word.endsWord_spaced ws) hw hlength hahead haliases rfl rfl (isNoKeyword_plain w)).2
      have hadd : c.addWord (Word.ofPlain w) = { c with words := Word.ofPlain w :: c.words } := by
        rw [Simple.addWord, Word.assignment?_ofPlain hw.2]
        simp
      obtain ⟨last, hlast⟩ := ih (n := n) (c.addWord (Word.ofPlain w))
        { s with expectation := .plain, lastWord := Word.ofPlain w } (by simp [hadd])
        (fun w hw => hws w (List.mem_cons_of_mem _ hw)) (by simp at hn; omega) hahead haliases
      refine ⟨last, .bind hword ?_⟩
      rw [hadd] at hlast
      dsimp only
      rw [hadd]
      rw [List.map_cons, List.reverse_cons, List.append_assoc, List.singleton_append]
      exact hlast

/-! ### Lines -/

/-- A plain word that was put back is read again. -/
theorem reads_nextAs_again (e : Expectation) (s : Source) (hl : 0 < r.fuel)
    (haliases : s.aliases = Table.empty) (hlines : e.skipsLines = false)
    (hkeyword : IsNoKeyword e w) :
    Reads (nextAs r e) { s with ahead := some (.word (Word.ofPlain w) false) }
      (.word (Word.ofPlain w) false) { s with ahead := none, expectation := .plain } := by
  have hfuel : r.surroundings.fuel ≠ 0 := Nat.ne_of_gt hl
  have hadvance := reads_advance_ahead r.surroundings
    { s with ahead := some (.word (Word.ofPlain w) false), expectation := e } _ rfl
  exact .bind (.changed _ _) (reads_next_word hfuel hadvance rfl hlines hkeyword haliases)

/-- The end of a script that was put back is read again. -/
theorem reads_nextAs_atEnd (e : Expectation) (s : Source) (last : Word) (hl : 0 < r.fuel)
    (hlines : e.skipsLines = false) :
    Reads (nextAs r e) (s.atEnd last) .ended { s.atEnd last with ahead := none } := by
  have hfuel : r.surroundings.fuel ≠ 0 := Nat.ne_of_gt hl
  have hadvance := reads_advance_ahead r.surroundings { s.atEnd last with expectation := e } _ rfl
  exact .bind (.changed _ _) (reads_next_ended hfuel hadvance hlines)

theorem reads_next_again (s : Source) (hl : 0 < r.fuel) (haliases : s.aliases = Table.empty)
    (hexpected : s.expectation = .plain) :
    Reads (next r) { s with ahead := some (.word (Word.ofPlain w) false) }
      (.word (Word.ofPlain w) false) { s with ahead := none } := by
  have h := reads_nextAs_again (r := r) .plain s hl haliases rfl (isNoKeyword_plain w)
  rw [← hexpected] at h
  exact h

theorem reads_next_atEnd (s : Source) (last : Word) (hl : 0 < r.fuel) :
    Reads (next r) (s.atEnd last) .ended { s.atEnd last with ahead := none } :=
  reads_nextAs_atEnd .plain s last hl rfl

/-- **A command of plain words is read up to the end of the script.** -/
theorem reads_command (s : Source) (hw : ∀ c ∈ w, isPlain c = true)
    (hws : ∀ w ∈ ws, IsPlainWord w ∧ w.length + 2 ≤ r.fuel) (hn : ws.length + 1 < r.fuel)
    (haliases : s.aliases = Table.empty) (hexpected : s.expectation = .plain) :
    ∃ last, Reads (command r)
      ({ s with ahead := some (.word (Word.ofPlain w) false) }.resting (spaced ws))
      (.simple s.line [] ((w :: ws).map Word.ofPlain) []) (s.atEnd last) := by
  have hl : 0 < r.fuel := by omega
  obtain ⟨n, hfuel⟩ : ∃ n, r.fuel = n + 1 := ⟨r.fuel - 1, by omega⟩
  have hadd : Simple.empty.addWord (Word.ofPlain w) = ⟨[], [Word.ofPlain w], []⟩ := by
    rw [Simple.addWord, Word.assignment?_ofPlain hw]
    rfl
  have hnode : (⟨[], (ws.map Word.ofPlain).reverse ++ [Word.ofPlain w], []⟩ : Simple).node s.line =
      .simple s.line [] ((w :: ws).map Word.ofPlain) [] := by
    simp [Simple.node]
  obtain ⟨last, hlast⟩ := reads_simple (r := r) s.line (n := n) ⟨[], [Word.ofPlain w], []⟩
    { s with ahead := none, expectation := .plain } (by simp) hws (by omega) hl rfl haliases
  rw [hnode] at hlast
  have hnext := reads_next_again (w := w) (s.resting (spaced ws)) hl haliases hexpected
  have hagain := reads_nextAs_again (w := w) { Expectation.plain with aliases := true }
    (s.resting (spaced ws)) hl haliases rfl (isNoKeyword_plain w)
  refine ⟨last, .bind (.state _) (.bind hnext (.bind (.changed _ _) (.bind (.state _) ?_)))⟩
  rw [hfuel]
  refine .bind hagain ?_
  dsimp only
  rw [hadd]
  exact hlast

/-- A pipeline and a condition of it alone are the command itself. -/
theorem reads_conditional (s : Source) (hw : ∀ c ∈ w, isPlain c = true)
    (hws : ∀ w ∈ ws, IsPlainWord w ∧ w.length + 2 ≤ r.fuel) (hn : ws.length + 1 < r.fuel)
    (haliases : s.aliases = Table.empty) (hexpected : s.expectation = .plain) :
    ∃ last, Reads (conditional r)
      ({ s with ahead := some (.word (Word.ofPlain w) false) }.resting (spaced ws))
      (.simple s.line [] ((w :: ws).map Word.ofPlain) []) (s.atEnd last) := by
  have hl : 0 < r.fuel := by omega
  obtain ⟨n, hfuel⟩ : ∃ n, r.fuel = n + 1 := ⟨r.fuel - 1, by omega⟩
  obtain ⟨last, hcommand⟩ := reads_command (r := r) s hw hws hn haliases hexpected
  have hstages : Reads (stages r r.fuel) (s.atEnd last) [] (s.atEnd last) := by
    rw [hfuel]
    exact .bind (reads_next_atEnd s last hl) (.bind (.changed _ _) (.result _ _))
  have hjoined (node : Node) : Reads (joined r r.fuel node) (s.atEnd last) node (s.atEnd last) := by
    rw [hfuel]
    exact .bind (reads_next_atEnd s last hl) (.bind (.changed _ _) (.result _ _))
  refine ⟨last, .bind ?_ (hjoined _)⟩
  refine .bind (reads_next_again (s.resting (spaced ws)) hl haliases hexpected) ?_
  exact .bind (.changed _ _) (.bind hcommand (.bind hstages (.result _ _)))

theorem reads_readAnnounced_of_nil (l : Surroundings) (s : Source) (h : s.announced = []) :
    Reads (readAnnounced l) s () s := by
  have hsame : { s with announced := [] } = s := by rw [← h]
  refine .bind (.state s) (.bind (.changed _ s) ?_)
  rw [h, hsame]
  exact .result _ s

/-- Nothing is left to read. -/
theorem reads_list_atEnd {n : Nat} (s : Source) (last : Word) (hl : 0 < r.fuel) (hn : 0 < n)
    (hannounced : s.announced = []) :
    Reads (list r .line n true) (s.atEnd last) [] (s.atEnd last) := by
  obtain ⟨n, rfl⟩ : ∃ m, n = m + 1 := Nat.exists_eq_succ_of_ne_zero (Nat.ne_of_gt hn)
  refine .bind (reads_nextAs_atEnd .command s last hl rfl) ?_
  refine .bind (reads_readAnnounced_of_nil _ _ hannounced) ?_
  exact .bind (.changed _ _) (.result _ _)

/-- **A line of plain words is read as a command of them.** -/
theorem reads_list (s : Source) {n : Nat} (hw : IsPlainWord w)
    (hkeyword : String.ofList w ∉ keywords)
    (hws : ∀ v ∈ w :: ws, IsPlainWord v ∧ v.length + 2 ≤ r.fuel) (hn : ws.length + 1 < r.fuel)
    (hsteps : 1 < n)
    (hahead : s.ahead = none) (haliases : s.aliases = Table.empty) (hannounced : s.announced = []) :
    ∃ last, Reads (list r .line n false) (s.resting (w ++ spaced ws))
      [.simple s.line [] ((w :: ws).map Word.ofPlain) []] (s.atEnd last) := by
  have hl : 0 < r.fuel := by omega
  obtain ⟨n, rfl⟩ : ∃ m, n = m + 1 := ⟨n - 1, by omega⟩
  obtain ⟨last, hconditional⟩ := reads_conditional (r := r) (w := w)
    { s with expectation := .plain, lastWord := Word.ofPlain w } hw.2
    (fun v hv => hws v (List.mem_cons_of_mem w hv)) hn haliases rfl
  have hfirst := (reads_nextAs_word .command s (Word.endsWord_spaced ws) hw
    (hws w List.mem_cons_self).2 hahead haliases rfl rfl (fun _ => hkeyword)).1
  refine ⟨last, .bind hfirst (.bind (.changed _ _) ?_)⟩
  refine .bind hconditional (.bind (reads_next_atEnd _ last hl) (.bind (.changed _ _) ?_))
  exact .bind (reads_list_atEnd s last hl (by omega) hannounced) (.result _ _)

theorem length_lt_of_mem {v : Octets} (h : v ∈ ws) : v.length < (spaced ws).length := by
  induction ws with
  | nil => exact absurd h List.not_mem_nil
  | cons u ws ih =>
      rw [spaced, List.flatMap_cons, List.length_append, List.length_cons]
      rcases List.mem_cons.1 h with rfl | h
      · omega
      · have hlt := ih h
        rw [spaced] at hlt
        omega

theorem length_le_spaced (ws : List Octets) : ws.length ≤ (spaced ws).length := by
  induction ws with
  | nil => exact Nat.le_refl 0
  | cons w ws ih =>
      rw [spaced] at ih
      rw [spaced, List.flatMap_cons, List.length_append, List.length_cons, List.length_cons]
      omega

/-- **A text of plain words is read as one command of them**, unless it begins with a keyword. -/
theorem readLine_spaced (s : Source) (hkeyword : String.ofList w ∉ keywords)
    (hws : ∀ v ∈ w :: ws, IsPlainWord v) (haliases : s.aliases = Table.empty) :
    ∃ last, readLine (s.resting (w ++ spaced ws)) =
      .ok (some [.simple s.line [] ((w :: ws).map Word.ofPlain) []],
        { s with announced := [] }.atEnd last) := by
  obtain ⟨fuel, hfuel⟩ : ∃ n, steps (s.resting (w ++ spaced ws)) = n + 1 :=
    Nat.exists_eq_succ_of_ne_zero (Nat.ne_of_gt (by unfold steps; omega))
  -- The steps of a reader are bounded by the size of its source, which is enough for each word.
  have hsteps : (w ++ spaced ws).length + 2 < fuel := by
    have hsize : (s.resting (w ++ spaced ws)).size = (w ++ spaced ws).length := rfl
    unfold steps at hfuel
    omega
  rw [List.length_append] at hsteps
  have hlengths : ∀ v ∈ w :: ws, IsPlainWord v ∧ v.length + 2 ≤ fuel := by
    intro v hv
    refine ⟨hws v hv, ?_⟩
    rcases List.mem_cons.1 hv with rfl | hv
    · omega
    · have hlt := length_lt_of_mem hv
      omega
  have hcount := length_le_spaced ws
  have hwords : ws.length + 1 < fuel := by omega
  obtain ⟨last, hlist⟩ := reads_list (r := ⟨read fuel, fuel⟩) (n := fuel)
    { s with ahead := none, expectation := .plain, announced := [] } (hws w List.mem_cons_self)
    hkeyword hlengths hwords (by omega) rfl haliases rfl
  refine ⟨last, ?_⟩
  unfold readLine
  rw [hfuel]
  exact Reads.bind (.changed _ _) (.bind hlist (.bind (.state _) (.result _ _)))

end Script
end CommandBot.Shell
