/-
**A command line that prints plain words leaves them.**

A quiet shell is one that nothing was asked of: it has no functions, no aliases and no switches,
nothing is redirected or caught, and nothing waits to be written.  In such a shell a line that is
one command of plain words is read as it looks, its builtin runs on those words, and the shell ends
as soon as what it printed is written.  So what a command line leaves can be told beforehand, at
least of one that prints.

Main definitions:

* `CommandBot.Shell.Own.IsQuiet` — a shell that nothing was asked of;
* `CommandBot.Shell.Process.settled` — a shell with nothing around it any more.

Main results:

* `CommandBot.Shell.Run.exists_does_simple` — **what a usual builtin prints reaches the output**;
* `CommandBot.Shell.Process.stops_runText`, `CommandBot.Shell.Process.does_conclude` — a text that
  is one line, and the end of a quiet shell;
* `CommandBot.Shell.Word.means_ofPlain` — **a plain word means itself**;
* `CommandBot.Shell.Launch.does_whole_echo`, `CommandBot.Shell.run_echo` — **plain words that are
  printed are what a command line leaves.**
-/

import CommandBot.Proofs.Shell.Launch
import CommandBot.Proofs.Shell.Reading
import CommandBot.Proofs.Shell.Run
import CommandBot.Proofs.Text.Utf8
import CommandBot.Text.Cut

set_option relaxedAutoImplicit false
set_option autoImplicit false

namespace CommandBot.Shell

open Exec

variable {run : Runner} {look : Outlook} {words : List Word} {texts : List Octets}
  {m m' : Machine}

/-! ### Quiet shells -/

/-- A shell that nothing was asked of. -/
structure Own.IsQuiet (o : Own) : Prop where
  functions : o.functions = Table.empty
  aliases : o.aliases = Table.empty
  switches : o.switches = []
  redirected : o.redirected = []
  locals : o.locals = []
  traps : o.traps = []
  pending : o.pending = []
  skip : o.skip = none
  keptStatus : o.keptStatus = none
  buffer : o.buffer = []

namespace Own.IsQuiet

variable {o : Own}

theorem isOn (h : o.IsQuiet) (switch : Switch) : o.switches.isOn switch = false := by
  rw [h.switches]
  rfl

/-- How much of a script was read says nothing of what was asked. -/
theorem read (h : o.IsQuiet) (lineRead : Nat) (isEndAhead : Bool) :
    { o with lineRead, isEndAhead }.IsQuiet :=
  ⟨h.functions, h.aliases, h.switches, h.redirected, h.locals, h.traps, h.pending, h.skip,
    h.keptStatus, h.buffer⟩

end Own.IsQuiet

/-! ### The last command -/

namespace Run

/-- **What a usual builtin prints reaches the sink of the output**, and the shell is as quiet after
it as before. -/
theorem exists_does_simple {name : Octets} {word : Word} {i n : Nat} {t : Octets} (line : Nat)
    (hname : IsUsual name) (hword : word.Means name) (hwords : List.Forall₂ Word.Means words texts)
    (hquiet : m.own.IsQuiet) (hopened : m.own.descriptors.lookup 1 = some i)
    (hreach : m.streams.Reaches i n) (hroom : m.streams.HasRoom n t) (hne : t ≠ [])
    (haction : ∀ m, Does (Command.action run look (String.ofList name) texts) m 0 (m.printed t)) :
    ∃ m', Does (simple run look line [] (word :: words) []) m () m' ∧ m'.own.status = 0 ∧
      m'.own.IsQuiet ∧ m'.streams = (m.streams.write i t).2 := by
  have hbuffer : ((running name (entered line m)).printed t).own.buffer = [t] :=
    congrArg (List.cons t) hquiet.buffer
  have hflush := does_flush hbuffer hne hopened hreach hroom
  have hbuiltin := does_builtin false (haction (running name (entered line m))) hflush
  refine ⟨_, does_simple line hname hword hwords hquiet.functions (hquiet.isOn _) hbuiltin rfl rfl,
    rfl, ?_, rfl⟩
  exact ⟨hquiet.functions, hquiet.aliases, hquiet.switches, hquiet.redirected, hquiet.locals,
    hquiet.traps, hquiet.pending, hquiet.skip, hquiet.keptStatus, rfl⟩

theorem does_actOnSignals (run : Runner) (h : m.own.IsQuiet) :
    Does (Process.actOnSignals run) m () m := by
  refine .bind (show Does own m m.own m from rfl) ?_
  rw [h.pending]
  exact .result _ m

/-- The last command of a quiet shell ends it, whatever its status. -/
theorem stops_node {line : Nat}
    (hsimple : Does (simple run ⟨false, true⟩ line [] words []) m () m') (hquiet : m.own.IsQuiet)
    (hquiet' : m'.own.IsQuiet) :
    Stops (node run ⟨false, true⟩ (.simple line [] words [])) m .ends m' := by
  have hcheck : Does (checkFailure ⟨false, true⟩) m' () m' := by
    refine .bind (show Does own m' m'.own m' from rfl) ?_
    rw [hquiet'.isOn]
    exact .result _ m'
  have heffect : Does (effect run ⟨false, true⟩ (.simple line [] words [])) m () m' :=
    .bind hsimple hcheck
  unfold node
  refine Does.bind_stops (Expand.does_isOn .noexec m) ?_
  rw [hquiet.isOn, if_pos rfl]
  refine Does.bind_stops (does_actOnSignals run hquiet) (Does.bind_stops heffect ?_)
  exact Does.bind_stops (does_actOnSignals run hquiet') rfl

end Run

/-! ### Texts -/

namespace Process

/-- The source that a text is read from. -/
def sourceOf (m : Machine) (text : Octets) : Source :=
  { Source.ofText text with documents := m.documents, count := m.documents.length }

/-- A shell that has read the last line of what it was given. -/
def readTo (m : Machine) (rest : Source) : Machine :=
  { m with
    documents := rest.documents
    own := { m.own with lineRead := rest.line, isEndAhead := true } }

/-- **A text that is one line** is run to the end of the shell. -/
theorem stops_runText {text : Octets} {nodes : List Node} {rest : Source}
    (hread : Script.readLine { sourceOf m text with aliases := m.own.aliases } =
      .ok (some nodes, rest))
    (hend : rest.isEndAhead = true) (look : Outlook)
    (hrun : Stops (run look nodes) (readTo m rest) .ends m') :
    Stops (runText run look false text) m .ends
      { m' with own := { m'.own with lineRead := m.own.lineRead } } := by
  have hline : Does (readLine (sourceOf m text)) m (some (nodes, rest)) (readTo m rest) := by
    refine .bind (show Does own m m.own m from rfl) ?_
    rw [hread]
    exact .bind rfl (.bind (by rw [hend]; rfl) (.result _ _))
  have hlines :
      Stops (runLines run look false (text.length + 2) 0 (sourceOf m text)) m .ends m' := by
    refine Does.bind_stops hline ?_
    dsimp only
    rw [hend]
    exact Stops.bind hrun
  refine Does.bind_stops (show Does own m m.own m from rfl) ?_
  refine Does.bind_stops (show Does get m m m from rfl) ?_
  exact Does.bind_stops hlines.attempt (Does.bind_stops rfl rfl)

/-! ### The end of a shell -/

/-- A shell with nothing around it any more. -/
def settled (o : Own) : Own :=
  { o with keptStatus := none, skip := none, loops := 0, isShowing := false }

/-- A status that was kept is the one that the shell has anyway, if nothing ran since. -/
theorem does_reset (exits : Bool) (h : m.own.redirected = [])
    (hkept : ∀ status ∈ m.own.keptStatus, status = m.own.status) :
    Does (reset exits) m () { m with own := settled m.own } := by
  have hunwind : Does (Redirect.unwind 0) { m with own := settled m.own } ()
      { m with own := settled m.own } := Run.does_unwind (congrArg List.length h)
  refine .bind (show Does own m m.own m from rfl) ?_
  -- Whether the status counts again makes no difference here.
  cases hstatus : m.own.keptStatus with
  | none => exact .bind rfl hunwind
  | some status =>
      obtain rfl := hkept status hstatus
      dsimp only
      split
      · exact .bind rfl (.bind rfl hunwind)
      · exact .bind rfl hunwind

/-- A shell that was settled keeps its status up to its end. -/
theorem does_reset_again (m : Machine) (h : m.own.redirected = []) :
    Does (reset true) { m with own := { settled m.own with keptStatus := some m.own.status } } ()
      { m with own := settled m.own } :=
  does_reset true h fun _ hstatus => (Option.some.inj hstatus).symm

theorem does_flush_of_nil (h : m.own.buffer = []) :
    Does flush m true { m with own := { m.own with buffer := [] } } := by
  refine .bind (show Does own m m.own m from rfl) (.bind rfl ?_)
  rw [h]
  exact .result _ _

/-- **A quiet shell ends as it is.** -/
theorem does_conclude (h : m.own.IsQuiet) :
    Does (conclude run (.error .ends)) m ()
      { m with own := { settled m.own with buffer := [] } } := by
  have hfirst : Does (settle (.error .ends)) m () { m with own := settled m.own } :=
    does_reset false h.redirected (by simp [h.keptStatus])
  have hcaught : (settled m.own).traps.lookup 0 = none := by
    rw [settled, h.traps]
    rfl
  have hflush : Does flush { m with own := settled m.own } true
      { m with own := { settled m.own with buffer := [] } } := does_flush_of_nil h.buffer
  refine .bind hfirst (.bind rfl (.bind rfl ?_))
  dsimp only
  rw [hcaught]
  exact .bind (does_reset_again m h.redirected) (.bind hflush (.result _ _))

end Process

/-! ### Plain words -/

/-- The glyph of an octet that means only itself. -/
def Glyph.ofOctet (c : Char) : Glyph := if Region.isMark c then .guarded c else .plain c

theorem Word.ofPlain_eq (w : Octets) : Word.ofPlain w = Word.ofGlyphs (w.map Glyph.ofOctet) := by
  have hpiece : Piece.ofOctet = Piece.ofGlyph ∘ Glyph.ofOctet := by
    funext c
    show Piece.ofOctet c = Piece.ofGlyph (Glyph.ofOctet c)
    cases hmark : Region.isMark c <;> simp [Piece.ofOctet, Glyph.ofOctet, Piece.ofGlyph, hmark]
  rw [Word.ofPlain, Word.ofGlyphs, List.map_map, hpiece]

theorem Glyph.text_ofOctet (w : Octets) : Glyph.text (w.map Glyph.ofOctet) = w := by
  have hchar (c : Char) : (Glyph.ofOctet c).char? = some c := by
    unfold Glyph.ofOctet
    split <;> rfl
  simp [Glyph.text, List.filterMap_map, hchar]

theorem Glyph.isPlain_of_mem {w : Octets} {c : Char} (h : ∀ d ∈ w, isPlain d = true)
    (hmem : .plain c ∈ w.map Glyph.ofOctet) : isPlain c = true := by
  obtain ⟨d, hd, heq⟩ := List.mem_map.1 hmem
  unfold Glyph.ofOctet at heq
  split at heq
  · cases heq
  · cases heq
    exact h _ hd

/-- **A plain word means itself.** -/
theorem Word.means_ofPlain {w : Octets} (h : IsPlainWord w) : (Word.ofPlain w).Means w := by
  intro capture m
  have htilde : .plain '~' ∉ w.map Glyph.ofOctet :=
    fun hmem => absurd (Glyph.isPlain_of_mem h.2 hmem) (by decide)
  have hsigns : Pattern.Plain (w.map Glyph.ofOctet) := by
    intro c hmem hsign
    have hc := Glyph.isPlain_of_mem h.2 hmem
    simp only [Pattern.signs, List.mem_cons, List.not_mem_nil, or_false] at hsign
    rcases hsign with rfl | rfl | rfl | rfl
    all_goals exact absurd hc (by decide)
  have hfields := Expand.does_fields_ofGlyphs capture (by simpa using h.1) htilde hsigns m
  rw [Glyph.text_ofOctet, ← Word.ofPlain_eq] at hfields
  exact hfields

theorem Word.forall₂_means (h : ∀ t ∈ texts, IsPlainWord t) :
    List.Forall₂ Word.Means (texts.map Word.ofPlain) texts := by
  rw [List.forall₂_map_left_iff, List.forall₂_same]
  exact fun t ht => Word.means_ofPlain (h t ht)

theorem IsPlainWord.ne_of_mem {w : Octets} (h : IsPlainWord w) {c d : Char} (hc : c ∈ w)
    (hd : isPlain d = false) : c ≠ d := Word.ne_of_isPlain (h.2 c hc) hd

/-- No octet of plain words is a NUL. -/
theorem nul_not_mem_spaced (h : ∀ t ∈ texts, IsPlainWord t) : '\x00' ∉ spaced texts := by
  intro hmem
  obtain ⟨t, ht, hmem⟩ := List.mem_flatMap.1 hmem
  rcases List.mem_cons.1 hmem with heq | hmem
  · exact absurd heq (by decide)
  · exact (h t ht).ne_of_mem hmem (by decide) rfl

/-! ### A shell that prints -/

namespace Launch

theorem isUsual_echo : Run.IsUsual "echo".toList := ⟨rfl, by decide, by decide⟩

theorem isPlainWord_echo : IsPlainWord "echo".toList :=
  ⟨by decide, List.all_eq_true.1 (by decide)⟩

theorem isQuiet_own (directory : Octets) : (own directory).IsQuiet :=
  ⟨rfl, rfl, rfl, rfl, rfl, rfl, rfl, rfl, rfl, rfl⟩

/-- What a shell prints goes to a sink, at its start. -/
theorem reaches_streams (files : FileTree) : (streams files).Reaches 1 0 := ⟨_, rfl, rfl, rfl⟩

/-- The sink has room for everything. -/
theorem hasRoom_streams (files : FileTree) (t : Octets) : (streams files).HasRoom 0 t :=
  ⟨⟨[], none⟩, rfl, by simp⟩

/-- `echo` prints its arguments, whatever the state of the shell is. -/
theorem does_action_echo (run : Runner) (look : Outlook) (h : ∀ t ∈ texts, '\\' ∉ t)
    (hn : texts.head? ≠ some ['-', 'n']) (m : Machine) :
    Does (Command.action run look (String.ofList "echo".toList) texts) m 0
      (m.printed ([' '].intercalate texts ++ ['\n'])) :=
  Builtin.does_echo h hn m

/-- **A shell that is told to print plain words** prints them and ends. -/
theorem does_whole_echo (files : FileTree) (h : ∀ t ∈ texts, IsPlainWord t)
    (hn : texts.head? ≠ some ['-', 'n']) :
    ∃ m', Does (whole ("echo".toList ++ spaced texts)) (start files) () m' ∧ m'.own.status = 0 ∧
      m'.streams = ((streams files).write 1 ([' '].intercalate texts ++ ['\n'])).2 := by
  obtain ⟨last, hread⟩ := Script.readLine_spaced (Source.ofText ("echo".toList ++ spaced texts))
    (by decide) (List.forall_mem_cons.2 ⟨isPlainWord_echo, h⟩) rfl
  have hbackslash : ∀ t ∈ texts, '\\' ∉ t := fun t ht hmem =>
    (h t ht).ne_of_mem hmem (by decide) rfl
  -- The only command is the last one, so that the shell ends with it and reads no further line.
  have hquiet := (isQuiet_own (FileTree.pathOf files.here)).read 1 true
  have hecho := does_action_echo (Run.list 199999) ⟨false, true⟩ hbackslash hn
  obtain ⟨m', hsimple, hstatus, hquiet', hstreams⟩ := Run.exists_does_simple
    (m := Process.readTo (start files) (Source.ofText [])) 1 isUsual_echo
    (Word.means_ofPlain isPlainWord_echo) (Word.forall₂_means h) hquiet rfl
    (reaches_streams files) (hasRoom_streams files _) (by simp) hecho
  have hnode : Stops (Run.list Run.depth ⟨false, true⟩
      [.simple 1 [] (("echo".toList :: texts).map Word.ofPlain) []])
      (Process.readTo (start files) (Source.ofText [])) .ends m' :=
    Run.stops_node hsimple hquiet hquiet'
  have htext := Process.stops_runText (m := start files) hread rfl ⟨false, true⟩ hnode
  have hscript : Stops (script ("echo".toList ++ spaced texts)) (start files) .ends _ :=
    Stops.bind htext
  exact ⟨_, .bind hscript.attempt (Process.does_conclude (hquiet'.read _ _)), hstatus, hstreams⟩

end Launch

/-! ### Command lines -/

/-- The octets of some words. -/
def octetsOf (words : List String) : List Octets := words.map fun w => Octets.ofText w.toList

theorem ofText_spaced (words : List (List Char)) :
    Octets.ofText (words.flatMap ([' '] ++ ·)) = spaced (words.map Octets.ofText) := by
  have hblank : Octets.ofText [' '] = [' '] := by decide
  induction words with
  | nil => rfl
  | cons w words ih =>
      rw [List.flatMap_cons, Octets.ofText_append, Octets.ofText_append, hblank, ih]
      rfl

/-- The octets of words with blanks between them. -/
theorem ofText_intercalate (first : String) (words : List String) :
    Octets.ofText (" ".intercalate (first :: words)).toList =
      Octets.ofText first.toList ++ spaced (octetsOf words) := by
  have hblank : " ".toList = [' '] := by decide
  rw [String.toList_intercalate, hblank, List.map_cons, Text.intercalate_cons_eq_flatMap,
    Octets.ofText_append, ofText_spaced, List.map_map]
  rfl

theorem ofText_joined (words : List String) :
    Octets.ofText (" ".intercalate words).toList = [' '].intercalate (octetsOf words) := by
  cases words with
  | nil => rfl
  | cons w words =>
      rw [ofText_intercalate]
      exact (Text.intercalate_cons_eq_flatMap [' '] _ _).symm

theorem toBytes_ofText (s : List Char) : Octets.toBytes (Octets.ofText s) = Text.Utf8.bytes s :=
  Octets.toBytes_ofBytes _

/-- Texts with the same octets are the same. -/
theorem ofText_injective : Function.Injective Octets.ofText := by
  intro s t heq
  rw [← Text.Utf8.decodeLossy_bytes s, ← Text.Utf8.decodeLossy_bytes t, ← toBytes_ofText,
    ← toBytes_ofText, heq]

theorem nul_mem_ofText {s : List Char} (h : '\x00' ∈ s) : '\x00' ∈ Octets.ofText s := by
  obtain ⟨before, after, rfl⟩ := List.append_of_mem h
  have hnul : Octets.ofText ['\x00'] = ['\x00'] := by decide
  rw [Octets.ofText_append, ← List.singleton_append, Octets.ofText_append, hnul]
  simp

/-- A word that is no switch has other octets than the switch. -/
theorem head?_octetsOf_ne {words : List String} (h : words.head? ≠ some "-n") :
    (octetsOf words).head? ≠ some ['-', 'n'] := by
  intro hhead
  rw [octetsOf, List.head?_map] at hhead
  obtain ⟨w, hw, heq⟩ := Option.map_eq_some_iff.1 hhead
  have hsame : w.toList = "-n".toList := ofText_injective (heq.trans (by decide))
  exact h (hw.trans (congrArg some (String.toList_inj.1 hsame)))

/-- **A command line that prints plain words leaves them as its output.** -/
theorem run_echo (files : FileTree) {words : List String} (h : ∀ t ∈ octetsOf words, IsPlainWord t)
    (hn : words.head? ≠ some "-n") :
    Shell.run (" ".intercalate ("echo" :: words)) files =
      (.ended (.exited 0) (Text.Utf8.bytes (" ".intercalate words ++ "\n").toList) [],
        files.later) := by
  have hline := ofText_intercalate "echo" words
  have hnul : '\x00' ∉ (" ".intercalate ("echo" :: words)).toList := by
    intro hmem
    have hoctet := nul_mem_ofText hmem
    rw [hline, List.mem_append] at hoctet
    exact hoctet.elim (by decide) (nul_not_mem_spaced h)
  obtain ⟨m', hwhole, hstatus, hstreams⟩ :=
    Launch.does_whole_echo files.later h (head?_octetsOf_ne hn)
  have hrun : (Launch.whole (Octets.ofText "echo".toList ++ spaced (octetsOf words))).run.run
      (Launch.start files.later) = (.ok (), m') := hwhole
  have houtput : m'.streams.text 0 = Octets.ofText (" ".intercalate words ++ "\n").toList := by
    have hend : Octets.ofText "\n".toList = ['\n'] := by decide
    rw [hstreams, (Streams.text_write (Launch.reaches_streams _) (Launch.hasRoom_streams _ _)).2,
      String.toList_append, Octets.ofText_append, ofText_joined, hend]
    rfl
  have hending : Process.endingOf m'.own (.ok ()) = .exited 0 := by
    show Ending.exited (m'.own.status % 256) = .exited 0
    rw [hstatus]
  rw [run_of_not_nul hnul, hline, hrun]
  dsimp only [Launch.outcome]
  rw [hending, houtput, toBytes_ofText, hstreams]
  rfl

end CommandBot.Shell
