/-
**A builtin runs on what its words mean.**

Where every word means a text, whatever the state of the shell is, a simple command is a name with
arguments.  If it names one of the usual builtins, the builtin runs on them; what it prints is
written where the output goes, and what is around the command is as it was before.

Main definitions:

* `CommandBot.Shell.Word.Means` — a word that means a text;
* `CommandBot.Shell.Run.IsUsual`, `CommandBot.Shell.Run.planOf` — the builtins that run in the shell
  and change nothing around them, and how they are run;
* `CommandBot.Shell.Run.entered` — the state that such a builtin begins in.

Main results:

* `CommandBot.Shell.Run.does_plan` — the plan of a command is its name with its arguments;
* `CommandBot.Shell.Run.does_simple` — **a usual builtin runs on what its words mean**;
* `CommandBot.Shell.Run.does_flush`, `CommandBot.Shell.Run.does_builtin` — **what it prints is
  written where the output goes**;
* `CommandBot.Shell.Builtin.does_echo` — what `echo` prints of texts without a backslash.
-/

import CommandBot.Proofs.Shell.Expand
import CommandBot.Proofs.Shell.Stream
import CommandBot.Shell.Run
import Mathlib.Data.List.Forall2

set_option relaxedAutoImplicit false
set_option autoImplicit false

namespace CommandBot.Shell

open Exec

/-! ### Words -/

/-- A word that is one field whatever the state of the shell is, and changes nothing. -/
def Word.Means (word : Word) (text : Octets) : Prop :=
  ∀ capture m, Does (Expand.fields capture word) m [text] m

namespace Run

variable {run : Runner} {look : Outlook} {words : List Word} {texts : List Octets}
  {m m' : Machine}

theorem does_reach {word : Word} {text : Octets} (h : word.Means text) (words : List Word) :
    Does (reach run 0 (word :: words) []) m ⟨[text], words⟩ m := by
  refine .bind (h _ m) ?_
  cases words with
  | nil => exact .result _ m
  | cons w words => exact .result _ m

theorem does_others (h : List.Forall₂ Word.Means words texts) :
    Does (others run false words) m texts m := by
  induction h with
  | nil => exact .result _ m
  | cons hword _ ih => exact .bind (hword _ m) (.bind ih (.result _ m))

/-- A name that is neither a path nor a function is found among the builtins. -/
theorem does_find {name : Octets} {kind : Command.Kind} (hslash : '/' ∉ name)
    (hfunctions : m.own.functions = Table.empty)
    (hkind : Command.kind? (String.ofList name) = some kind) :
    Does (Command.find true name) m (.builtin kind) m := by
  have hnone : m.own.functions.get? (String.ofList name) = none := by rw [hfunctions]; rfl
  unfold Command.find Command.findBy
  rw [if_neg (by simpa using hslash)]
  refine .bind (show Does own m m.own m from rfl) ?_
  rw [if_pos rfl, hnone, hkind]
  exact .result _ m

/-- A builtin that is found by its name, is not special and runs no other command. -/
structure IsUsual (name : Octets) : Prop where
  kind : Command.kind? (String.ofList name) = some .usual
  noPath : '/' ∉ name
  noCommand : name ≠ "command".toList

/-- The plan of a usual builtin on some arguments. -/
def planOf (name : Octets) (arguments : List Octets) : Plan where
  fields := name :: arguments
  command := name :: arguments
  found := .builtin .usual
  isSpecial := false
  isLocal := true
  isExec := name == "exec".toList
  withoutFunctions := false

/-- The plan of a usual builtin is its name with what its words mean. -/
theorem does_plan {name : Octets} (hname : IsUsual name) (h : List.Forall₂ Word.Means words texts)
    (fuel : Nat) (m : Machine) (hfunctions : m.own.functions = Table.empty) :
    Does (plan run none 0 (fuel + 1) ⟨[name], words⟩) m (planOf name texts) m := by
  rw [plan]
  refine .bind (does_find hname.noPath hfunctions hname.kind) ?_
  dsimp only [List.getElem?_cons_zero, Option.getD_some]
  rw [if_neg hname.noCommand]
  exact .bind (.result _ m) (.bind (does_others h) (.result _ m))

theorem does_showCommand (frames : Nat) (assignments fields : List Octets)
    (h : m.own.switches.isOn .xtrace = false) :
    Does (showCommand run frames assignments fields) m () m := by
  refine .bind (show Does own m m.own m from rfl) ?_
  rw [h, Bool.false_and, if_neg Bool.false_ne_true]
  exact .result _ m

theorem does_unwind {depth : Nat} (h : m.own.redirected.length = depth) :
    Does (Redirect.unwind depth) m () m := by
  refine .bind (show Does own m m.own m from rfl) ?_
  rw [h, Nat.sub_self]
  exact .result _ m

theorem does_restore {locals : List (List Saved)} (h : m.own.locals = [] :: locals) :
    Does (Parameter.restore locals.length) m () { m with own := { m.own with locals } } := by
  have hcount : m.own.locals.length - locals.length = 1 := by
    rw [h, List.length_cons, Nat.add_sub_cancel_left]
  refine .bind (show Does own m m.own m from rfl) ?_
  dsimp only
  rw [hcount, h]
  exact .bind rfl (.result _ _)

/-- The state that a usual builtin begins in: assignments are its own. -/
def entered (line : Nat) (m : Machine) : Machine :=
  { m with own := { m.own with line, outputStatus := 0, locals := [] :: m.own.locals } }

/-- **A usual builtin runs** on what its words mean, with assignments that belong to it alone. -/
theorem does_simple {name : Octets} {word : Word} (line : Nat) (hname : IsUsual name)
    (hword : word.Means name) (hwords : List.Forall₂ Word.Means words texts)
    (hfunctions : m.own.functions = Table.empty) (hxtrace : m.own.switches.isOn .xtrace = false)
    (hbuiltin : Does (builtin run look false (name :: texts)) (entered line m) () m')
    (hlocals : m'.own.locals = [] :: m.own.locals)
    (hredirected : m'.own.redirected = m.own.redirected) :
    Does (simple run look line [] (word :: words) []) m ()
      { m' with own := { m'.own with locals := m.own.locals } } := by
  have hperform : Does (perform run look (planOf name texts)) (entered line m) () m' :=
    .bind (.result _ _) hbuiltin
  have hline : Does (change fun o => { o with line, outputStatus := 0 }) m ()
      { m with own := { m.own with line, outputStatus := 0 } } := rfl
  unfold simple
  refine .bind hline ?_
  refine .bind (does_reach hword words) ?_
  rw [if_neg (by simp)]
  refine .bind (does_plan hname hwords 99999 _ hfunctions) ?_
  -- Without redirections the steps up to the assignments are done by what they compute.
  refine .bind rfl (.bind rfl (.bind rfl (.bind rfl (.bind rfl ?_))))
  rw [if_pos rfl]
  refine .bind (.result _ _) (.bind (does_showCommand _ _ _ hxtrace) (.bind hperform ?_))
  exact .bind (does_unwind (congrArg List.length hredirected)) (does_restore hlocals)

/-! ### Builtins -/

theorem does_withStreams {α : Type} (f : Streams → α × Streams) (m : Machine) :
    Does (withStreams f) m (f m.streams).1 { m with streams := (f m.streams).2 } := rfl

/-- A text is written to what is opened, if that leads to a sink with room for it. -/
theorem does_writeTo {i n : Nat} {t : Octets} (hreach : m.streams.Reaches i n)
    (hroom : m.streams.HasRoom n t) :
    Does (writeTo (some i) t) m true { m with streams := (m.streams.write i t).2 } := by
  refine .bind (does_withStreams _ m) ?_
  rw [(Streams.text_write hreach hroom).1]
  exact .result _ _

/-- What was printed is written where the output goes, if there is room for it. -/
theorem does_flush {i n : Nat} {t : Octets} (hbuffer : m.own.buffer = [t]) (hne : t ≠ [])
    (hopened : m.own.descriptors.lookup 1 = some i) (hreach : m.streams.Reaches i n)
    (hroom : m.streams.HasRoom n t) :
    Does flush m true
      { m with own := { m.own with buffer := [] }, streams := (m.streams.write i t).2 } := by
  have htext : m.own.buffer.reverse.flatten = t := by rw [hbuffer]; simp
  have hdescriptor : Does (opened? 1) { m with own := { m.own with buffer := [] } } (some i)
      { m with own := { m.own with buffer := [] } } := by
    rw [← hopened]
    exact .result _ _
  refine .bind (show Does own m m.own m from rfl) (.bind rfl ?_)
  rw [htext, if_neg (by simpa using hne)]
  exact .bind hdescriptor (does_writeTo hreach hroom)

/-- The state in which a builtin is the one that runs. -/
def running (name : Octets) (m : Machine) : Machine :=
  { m with own := { m.own with runs := some name } }

/-- **What a builtin prints is written at its end**, and the status is the one it gives. -/
theorem does_builtin (isSpecial : Bool) {name : Octets} {status : Nat} {m₁ m₂ : Machine}
    (haction : Does (Command.action run look (String.ofList name) texts) (running name m) status m₁)
    (hflush : Does flush m₁ true m₂) :
    Does (builtin run look isSpecial (name :: texts)) m ()
      { m₂ with own := { m₂.own with status, runs := m.own.runs, buffer := [] } } := by
  have hbody : Does (attempt do
      let status ← Command.action run look (String.ofList name) texts
      let isWritten ← flush
      if !isWritten then complain (name ++ ": I/O error".toList)
      setStatus (if isWritten then status else status ||| 1)) (running name m) (.ok ())
      { m₂ with own := { m₂.own with status } } :=
    Does.attempt (.bind haction (.bind hflush rfl))
  refine .bind rfl (.bind rfl (.bind hbody (.bind rfl ?_)))
  exact .result _ _

end Run

/-! ### Echo -/

/-- The state after a text was printed, which is not yet written. -/
def Machine.printed (m : Machine) (t : Octets) : Machine :=
  { m with own := { m.own with buffer := t :: m.own.buffer } }

namespace Escape

/-- A text without a backslash is printed as it is. -/
theorem expandAll_of_not_mem {s : Octets} (h : '\\' ∉ s) : expandAll s = (s, false) := by
  unfold expandAll
  induction s with
  | nil => rfl
  | cons c s ih =>
      have hc : c ≠ '\\' := by
        rintro rfl
        exact h List.mem_cons_self
      rw [List.length_cons, expand]
      · rw [ih fun hmem => h (List.mem_cons_of_mem c hmem)]
      · exact fun _ heq => absurd heq hc
      · exact hc

end Escape

namespace Builtin

/-- What `echo` makes of texts without a backslash. -/
theorem echoTexts_of_not_mem {texts : List Octets} (h : ∀ t ∈ texts, '\\' ∉ t) :
    echoTexts texts = ([' '].intercalate texts, true) := by
  induction texts with
  | nil => rfl
  | cons t texts ih =>
      have ht := Escape.expandAll_of_not_mem (h t List.mem_cons_self)
      have hrest := ih fun s hs => h s (List.mem_cons_of_mem t hs)
      cases texts with
      | nil =>
          rw [echoTexts, ht]
          simp
      | cons s texts =>
          rw [echoTexts, ht, hrest]
          · simp
          · simp

/-- **Texts without a backslash are printed with a blank between them**, and the line ends. -/
theorem does_echo {texts : List Octets} (h : ∀ t ∈ texts, '\\' ∉ t)
    (hn : texts.head? ≠ some ['-', 'n']) (m : Machine) :
    Does (echo texts) m 0 (m.printed ([' '].intercalate texts ++ ['\n'])) := by
  unfold echo
  split
  · exact absurd rfl hn
  · rw [echoTexts_of_not_mem h]
    exact .bind rfl (.result _ _)

end Builtin

end CommandBot.Shell
