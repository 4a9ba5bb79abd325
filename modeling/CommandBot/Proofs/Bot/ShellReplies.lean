/-
**How long the replies of the shell command are.**

An output is shown up to a number of characters, and so is a complaint.  The fences or the report
around it add a few more, and everything else that the shell command can reply is short: every reply
fits in one message, unless the host has a long reason not to start the command line.  What is shown
is the output itself, with its fences broken: only what stands behind the limit is left out, and
without the characters that break the fences it reads as it was printed.

Main definitions:

* `CommandBot.Host.IsBroken` — a text in which every fence was replaced;
* `CommandBot.Host.IsShown` — what is shown of a text;
* `CommandBot.Action.ShellRun` — what the shell command can come to.

Main results:

* `CommandBot.Host.isBroken_iff` — the fences are replaced from left to right;
* `CommandBot.Host.filter_breakFences` — only characters without width are put in;
* `CommandBot.Action.shellRun_of_runs` — **what the shell command comes to**, and what it asks;
* `CommandBot.shell_replies_fit` — **its replies fit, and lose only what stands behind the limit.**
-/

import CommandBot.Proofs.Bot.Confinement
import CommandBot.Proofs.Bot.Fences
import CommandBot.Proofs.Bot.Silence

set_option relaxedAutoImplicit false
set_option autoImplicit false

namespace CommandBot

open Program

namespace Host

/-! ### Replacing fences -/

/-- **A text in which every fence was replaced**, from left to right: by a mark, a character without
width and two marks. -/
inductive IsBroken : List Char → List Char → Prop where
  | kept {s : List Char} (h : ∀ i, ¬ FenceAt s i) : IsBroken s s
  | replaced {before after rest : List Char}
      (hfirst : ∀ i < before.length, ¬ FenceAt (before ++ fence ++ after) i)
      (h : IsBroken after rest) :
      IsBroken (before ++ fence ++ after)
        (before ++ [fenceMark, zeroWidth, fenceMark, fenceMark] ++ rest)

section Replacing

variable {s t before after : List Char} {a : Char}

/-- A text without a fence is left as it is. -/
theorem breakFences_of_forall_not (h : ∀ i, ¬ FenceAt s i) : breakFences s = s := by
  induction s using breakFences_induction with
  | nil => rfl
  | broken rest _ => exact absurd (List.prefix_append fence rest) (h 0)
  | kept a rest hnot ih =>
      rw [breakFences_cons hnot, ih fun i => h (i + 1)]

/-- **The first fence is replaced**, and the replacing goes on after it. -/
theorem breakFences_of_first (h : ∀ i < before.length, ¬ FenceAt (before ++ fence ++ after) i) :
    breakFences (before ++ fence ++ after) =
      before ++ [fenceMark, zeroWidth, fenceMark, fenceMark] ++ breakFences after := by
  induction before with
  | nil => exact breakFences_fence_append
  | cons a before ih =>
      have hnot : ¬ fence <+: a :: (before ++ fence ++ after) := h 0 (Nat.succ_pos _)
      have hrest : breakFences (before ++ fence ++ after) =
          before ++ [fenceMark, zeroWidth, fenceMark, fenceMark] ++ breakFences after :=
        ih fun i hi => h (i + 1) (Nat.succ_lt_succ hi)
      rw [List.cons_append, List.cons_append, breakFences_cons hnot, hrest]
      rfl

/-- One more character in front of a text that does not begin with a fence there. -/
theorem IsBroken.cons (hnot : ¬ fence <+: a :: s) (h : IsBroken s t) :
    IsBroken (a :: s) (a :: t) := by
  cases h with
  | kept h =>
      refine .kept fun i hi => ?_
      cases i with
      | zero => exact hnot hi
      | succ i => exact h i hi
  | @replaced before after rest hfirst h =>
      refine @IsBroken.replaced (a :: before) after rest (fun i hi hfence => ?_) h
      cases i with
      | zero => exact hnot hfence
      | succ i => exact hfirst i (Nat.lt_of_succ_lt_succ hi) hfence

/-- **The fences are replaced from left to right.** -/
theorem isBroken_iff : IsBroken s t ↔ t = breakFences s := by
  constructor
  · intro h
    induction h with
    | kept h => exact (breakFences_of_forall_not h).symm
    | replaced hfirst _ ih => rw [breakFences_of_first hfirst, ih]
  · rintro rfl
    induction s using breakFences_induction with
    | nil => exact .kept fun i hi => by simpa using hi.length_le
    | broken rest ih =>
        rw [breakFences_fence_append]
        exact @IsBroken.replaced [] rest (breakFences rest) nofun ih
    | kept a rest hnot ih =>
        rw [breakFences_cons hnot]
        exact ih.cons hnot

/-- **Only characters without width are put in.** -/
theorem filter_breakFences :
    (breakFences s).filter (fun c => decide (c ≠ zeroWidth)) =
      s.filter fun c => decide (c ≠ zeroWidth) := by
  have hfence : fence.filter (fun c => decide (c ≠ zeroWidth)) = fence := by decide
  have hbroken : [fenceMark, zeroWidth, fenceMark, fenceMark].filter
      (fun c => decide (c ≠ zeroWidth)) = fence := by decide
  induction s using breakFences_induction with
  | nil => rfl
  | broken rest ih =>
      have happend : breakFences (fence ++ rest) =
          [fenceMark, zeroWidth, fenceMark, fenceMark] ++ breakFences rest :=
        breakFences_fence_append
      rw [happend, List.filter_append, List.filter_append, hfence, hbroken, ih]
  | kept a rest hnot ih => rw [breakFences_cons hnot, List.filter_cons, List.filter_cons, ih]

end Replacing

/-! ### What is shown -/

/-- **What is shown of a text**: the text, or its first 1900 characters and an ellipsis.  The cut is
made at the byte where the next character begins in UTF-8, so it does not fall into one, and what
stands before that byte are the first characters. -/
structure IsShown (text shown : List Char) : Prop where
  whole : text.length ≤ 1900 → shown = text
  cut : 1900 < text.length → ∃ front back offset, text = front ++ back ∧ front.length = 1900 ∧
    shown = front ++ ['…'] ∧ Text.byteOffset? 1900 text = some offset ∧
    Text.sliceTo? offset text = some front ∧
    (⟨offset⟩ : String.Pos.Raw).IsValid (String.ofList text)

theorem isShown_truncate (text : List Char) : IsShown text (Text.truncate shownLimit text) := by
  constructor
  · intro hshort
    exact Text.truncate_of_length_le hshort
  · intro hlong
    have hoffset := Text.byteOffset?_eq_some_iff.2 ⟨hlong, rfl⟩
    refine ⟨text.take 1900, text.drop 1900, _, (List.take_append_drop 1900 text).symm, ?_, ?_,
      hoffset, Text.sliceTo?_of_byteOffset? hoffset, ?_⟩
    · rw [List.length_take, Nat.min_eq_left (Nat.le_of_lt hlong)]
    · exact Text.truncate_of_lt_length hlong
    · refine String.Pos.Raw.isValid_iff_exists_append.2
        ⟨_, String.ofList (text.drop 1900), ?_, rfl⟩
      rw [← String.ofList_append, List.take_append_drop]

theorem IsShown.length_le {text shown : List Char} (h : IsShown text shown) :
    shown.length ≤ 1901 := by
  rcases Nat.lt_or_ge 1900 text.length with hlong | hshort
  · obtain ⟨front, back, offset, -, hlength, rfl, -⟩ := h.cut hlong
    rw [List.length_append, hlength]
    rfl
  · rw [h.whole hshort]
    omega

/-- A block is what is shown of the broken text, between two fences. -/
theorem toList_fenced (text : String) :
    (fenced text).toList = "\x60\x60\x60\n".toList ++ fencedBody text.toList ++
      "\n\x60\x60\x60".toList := by
  have hopen : "\x60\x60\x60\n".toList = fence ++ ['\n'] := by decide
  have hclose : "\n\x60\x60\x60".toList = '\n' :: fence := by decide
  rw [fenced, String.toList_ofList, hopen, hclose]
  simp only [List.append_assoc, List.cons_append, List.nil_append]

/-! ### Lengths -/

theorem length_fenced_le (text : String) : (fenced text).length ≤ 1909 := by
  have hbody : (fencedBody text.toList).length ≤ 1901 := (isShown_truncate _).length_le
  have hopen : "\x60\x60\x60\n".toList.length = 4 := by decide
  have hclose : "\n\x60\x60\x60".toList.length = 4 := by decide
  rw [← String.length_toList, toList_fenced, List.length_append, List.length_append, hopen, hclose]
  omega

/-- A byte is written with three digits at most. -/
theorem length_repr_toNat_le (n : UInt8) : n.toNat.repr.length ≤ 3 := by
  rw [← String.length_toList, Nat.toList_repr]
  exact (Nat.length_toDigits_le_iff (by decide) (by decide)).2 (Nat.lt_trans n.toNat_lt (by decide))

theorem length_signalSuffix_le (signal : Nat) : (signalSuffix signal).length ≤ 12 := by
  have hnames : ∀ name ∈ signalNames, name.length ≤ 6 := by decide
  have hopen : " (SIG".length = 5 := by decide
  have hclose : ")".length = 1 := by decide
  unfold signalSuffix
  split
  · decide
  · split
    · next name hname =>
        have := hnames name (List.mem_of_getElem? hname)
        rw [String.length_append, String.length_append, hopen, hclose]
        omega
    · decide

/-- The wording of a status is short. -/
theorem Status.length_text_le (status : Status) : status.text.length ≤ 40 := by
  cases status with
  | exited code =>
      have hlead : "exit status: ".length = 13 := by decide
      have hcode := length_repr_toNat_le code
      rw [text, String.length_append, hlead]
      omega
  | killed signal dumped =>
      have hlead : "signal: ".length = 8 := by decide
      have hsignal := length_repr_toNat_le signal
      have hsuffix := length_signalSuffix_le signal.toNat
      have hdumped : (if dumped then " (core dumped)" else "").length ≤ 14 := by
        cases dumped with
        | true => decide
        | false => decide
      rw [text, String.length_append, String.length_append, String.length_append, hlead]
      omega

theorem length_complaint_le (status : Status) (errors : List UInt8) :
    (complaint status errors).length ≤ 1901 := by
  unfold complaint
  split
  · have := status.length_text_le
    omega
  · rw [String.length_ofList]
    exact (isShown_truncate _).length_le

end Host

/-! ### The shell command -/

namespace Action

/-- The answer to whether the author is an administrator. -/
def lookedUp (admin : Except CommandError Bool) : (q : Request) × q.Answer := ⟨.authorIsAdmin, admin⟩

/-- A command line with its outcome. -/
def launched (line : String) (outcome : Host.Outcome) : (q : Request) × q.Answer :=
  ⟨.service (.shell line), outcome⟩

/-- **What the shell command can come to**, with what it asks. -/
inductive ShellRun (line : String) :
    List ((q : Request) × q.Answer) → Except CommandError Reply → Prop where
  | notLookedUp (e : CommandError) : ShellRun line [lookedUp (.error e)] (.error e)
  | refused : ShellRun line [lookedUp (.ok false)] (.error .permissionDenied)
  | blank (h : Text.isBlank line = true) :
      ShellRun line [lookedUp (.ok true)] (.error (.invalidArgs "No command specified."))
  | notStarted (reason : String) :
      ShellRun line [lookedUp (.ok true), launched line (.unstartable reason)]
        (.error (.execution reason))
  | succeeded {status : Host.Status} (h : status.isSuccess = true) (output errors : List UInt8) :
      ShellRun line [lookedUp (.ok true), launched line (.ended status output errors)]
        (.ok (.ofText (Host.fenced (String.ofList (Text.Utf8.decodeLossy output)))))
  | failed {status : Host.Status} (h : status.isSuccess = false) (output errors : List UInt8) :
      ShellRun line [lookedUp (.ok true), launched line (.ended status output errors)]
        (.error (.execution (Host.complaint status errors)))

variable {args : List String} {line : String} {exchanges : List ((q : Request) × q.Answer)}
  {result : Except CommandError Reply}

/-- What running a command line comes to. -/
theorem shellRun_of_runLine (h : Runs (runLine line) exchanges result) :
    ShellRun line (lookedUp (.ok true) :: exchanges) result := by
  rw [runLine, Text.isEmpty_trim] at h
  split at h
  · next hblank =>
      obtain ⟨rfl, rfl⟩ := runs_done_iff.1 h
      exact .blank hblank
  · obtain ⟨outcome, rest, rfl, hrest⟩ := runs_ask_iff.1 h
    cases outcome with
    | unstartable reason =>
        obtain ⟨rfl, rfl⟩ := runs_done_iff.1 hrest
        exact .notStarted reason
    | ended status output errors =>
        simp only [Host.result] at hrest
        cases hstatus : status.isSuccess with
        | true =>
            rw [hstatus] at hrest
            obtain ⟨rfl, rfl⟩ := runs_done_iff.1 hrest
            exact .succeeded hstatus output errors
        | false =>
            rw [hstatus] at hrest
            obtain ⟨rfl, rfl⟩ := runs_done_iff.1 hrest
            exact .failed hstatus output errors

/-- **What the shell command comes to.** -/
theorem shellRun_of_runs (h : Runs (runAsAdmin args) exchanges result) :
    ShellRun (Search.line args) exchanges result := by
  obtain ⟨admin, rest, rfl, hrest⟩ := runs_ask_iff.1 h
  cases admin with
  | error e =>
      obtain ⟨rfl, rfl⟩ := runs_done_iff.1 hrest
      exact .notLookedUp e
  | ok admin =>
      cases admin with
      | false =>
          obtain ⟨rfl, rfl⟩ := runs_done_iff.1 hrest
          exact .refused
      | true =>
          dsimp only at hrest
          rw [if_pos rfl] at hrest
          exact shellRun_of_runLine hrest

/-- **The text that the shell command replies with**, by the outcome of its command line.  It fits
in one message unless the host has a long reason not to start the command line. -/
structure ShellText (exchanges : List ((q : Request) × q.Answer)) (text : String) : Prop where
  ended : ∀ line status output errors, launched line (.ended status output errors) ∈ exchanges →
    text = if status.isSuccess then Host.fenced (String.ofList (Text.Utf8.decodeLossy output))
      else "❌ Command failed: " ++ Host.complaint status errors
  notStarted : ∀ line reason, launched line (.unstartable reason) ∈ exchanges →
    text = "❌ Command failed: " ++ reason
  fits : (∀ line reason, launched line (.unstartable reason) ∈ exchanges → reason.length ≤ 1982) →
    text.length ≤ 2000

section Texts

variable {line' : String} {outcome outcome' : Host.Outcome} {admin : Except CommandError Bool}

theorem launched_not_mem_lookedUp (line : String) (outcome : Host.Outcome) :
    launched line outcome ∉ [lookedUp admin] := by
  intro h
  cases List.mem_singleton.1 h

/-- Where one command line is run, there is one outcome. -/
theorem outcome_eq_of_mem (h : launched line' outcome' ∈ [lookedUp admin, launched line outcome]) :
    outcome' = outcome := by
  rcases List.mem_cons.1 h with h | h
  · cases h
  · cases List.mem_singleton.1 h
    rfl

/-- A reply without a command line. -/
theorem shellText_of_forall_not {text : String} (hnone : ∀ line outcome,
    launched line outcome ∉ exchanges) (h : text.length ≤ 2000) : ShellText exchanges text where
  ended _ _ _ _ hmem := absurd hmem (hnone _ _)
  notStarted _ _ hmem := absurd hmem (hnone _ _)
  fits _ := h

/-- The reply to a command line that was run to its end. -/
theorem shellText_of_ended {status : Host.Status} {output errors : List UInt8} {text : String}
    (htext : text = if status.isSuccess then
        Host.fenced (String.ofList (Text.Utf8.decodeLossy output))
      else "❌ Command failed: " ++ Host.complaint status errors) (h : text.length ≤ 2000) :
    ShellText [lookedUp admin, launched line (.ended status output errors)] text where
  ended _ _ _ _ hmem := by
    cases outcome_eq_of_mem hmem
    exact htext
  notStarted _ _ hmem := by cases outcome_eq_of_mem hmem
  fits _ := h

/-- How a failure on the host is reported. -/
theorem report_eq (detail : String) :
    "❌ " ++ (CommandError.execution detail).message = "❌ Command failed: " ++ detail := by
  have hlead : "❌ " ++ "Command failed: " = "❌ Command failed: " := by decide
  rw [← hlead, String.append_assoc]
  rfl

/-- The report is a little longer than what is reported. -/
theorem length_report (detail : String) :
    ("❌ Command failed: " ++ detail).length = 18 + detail.length := by
  have hlead : "❌ Command failed: ".length = 18 := by decide
  rw [String.length_append, hlead]

/-- **The shell command replies with such a text** if the author could be looked up. -/
theorem ShellRun.exists_shellText (h : ShellRun line exchanges result)
    (hlookup : ∀ e, lookedUp (.error e) ∉ exchanges) :
    ∃ text, replyOf result = .ofText text ∧ ShellText exchanges text := by
  cases h with
  | notLookedUp e => exact absurd (List.mem_singleton_self _) (hlookup e)
  | refused => exact ⟨_, rfl, shellText_of_forall_not launched_not_mem_lookedUp (by decide)⟩
  | blank _ => exact ⟨_, rfl, shellText_of_forall_not launched_not_mem_lookedUp (by decide)⟩
  | notStarted reason =>
      refine ⟨_, rfl, ?_, ?_, ?_⟩
      · intro _ _ _ _ hmem
        cases outcome_eq_of_mem hmem
      · intro _ _ hmem
        cases outcome_eq_of_mem hmem
        exact report_eq reason
      · intro hreason
        have := hreason line reason (List.mem_cons_of_mem _ (List.mem_singleton_self _))
        rw [report_eq, length_report]
        omega
  | @succeeded status hstatus output errors =>
      refine ⟨_, rfl, shellText_of_ended ?_ ?_⟩
      · rw [if_pos hstatus]
      · exact Nat.le_trans (Host.length_fenced_le _) (by decide)
  | @failed status hstatus output errors =>
      refine ⟨_, rfl, shellText_of_ended ?_ ?_⟩
      · rw [if_neg (by simp [hstatus]), report_eq]
      · have := Host.length_complaint_le status errors
        rw [report_eq, length_report]
        omega

/-- What is asked before a command does not count for its text. -/
theorem ShellText.append_left {others : List ((q : Request) × q.Answer)} {text : String}
    (hothers : ∀ line outcome, launched line outcome ∉ others) (h : ShellText exchanges text) :
    ShellText (others ++ exchanges) text := by
  have hmem : ∀ line outcome, launched line outcome ∈ others ++ exchanges →
      launched line outcome ∈ exchanges := by
    intro line outcome hmem
    rcases List.mem_append.1 hmem with hmem | hmem
    · exact absurd hmem (hothers line outcome)
    · exact hmem
  constructor
  · intro _ _ _ _ hended
    exact h.ended _ _ _ _ (hmem _ _ hended)
  · intro _ _ hreason
    exact h.notStarted _ _ (hmem _ _ hreason)
  · intro hfits
    exact h.fits fun line reason hreason =>
      hfits line reason (List.mem_append_right others hreason)

end Texts

end Action

/-! ### Messages -/

section Messages

variable {ctx : Context} {message : String} {command : Command} {args : List String}
  {exchanges : List ((q : Request) × q.Answer)} {reply : Option Reply}

/-- **What a shell command is answered with.**  One that needs a store is not even tried without
one. -/
theorem exists_shellText_of_execute {result : Except CommandError Reply}
    (hshell : command.action = .shell) (h : Runs (command.execute args ctx) exchanges result)
    (hlookup : ∀ e, Action.lookedUp (.error e) ∉ exchanges) :
    Speaks result ∧ ∃ text, replyOf result = .ofText text ∧ Action.ShellText exchanges text := by
  unfold Command.execute at h
  split at h
  · obtain ⟨rfl, rfl⟩ := runs_done_iff.1 h
    exact ⟨speaks_error _, _, rfl, Action.shellText_of_forall_not (fun _ _ => by simp) (by decide)⟩
  · rw [hshell] at h
    have hyields : (Action.runAsAdmin args).Yields (fun _ _ => True) Speaks :=
      Action.runAsAdmin_yields args
    exact ⟨hyields.of_runs h fun _ _ => trivial,
      (Action.shellRun_of_runs h).exists_shellText hlookup⟩

/-- **What a message to the shell command is answered with.** -/
theorem exists_shellText_of_runs (hhuman : ctx.author.bot = false)
    (hroute : route ctx.settings.commandPrefix ctx.registry message = .command command args)
    (hshell : command.action = .shell) (h : Runs (respond ctx message) exchanges reply)
    (hlookup : ∀ e, Action.lookedUp (.error e) ∉ exchanges) :
    ∃ text, reply = some (.ofText text) ∧ Action.ShellText exchanges text := by
  obtain ⟨verb, hparse, -⟩ := route_eq_command hroute
  have hignored := not_ignores_of_isWritten hhuman (Invocation.parse?_eq_some_iff.1 hparse)
  rw [respond_of_command hignored hroute] at h
  obtain ⟨counting, executing, result, rfl, hcounting, hexecuting, rfl⟩ := runs_respondCommand h
  obtain ⟨hspeaks, text, htext, hshown⟩ := exists_shellText_of_execute hshell hexecuting
    fun e hmem => hlookup e (List.mem_append_right _ hmem)
  -- What the store is asked to count the command is no command line.
  have hcounted : ∀ line outcome, Action.launched line outcome ∉ counting := by
    intro line outcome hmem
    obtain ⟨r, hr, -⟩ := mem_asked_countAuthor hcounting _ (List.mem_map_of_mem hmem)
    cases hr
  rw [hspeaks.nonempty?_replyOf, htext]
  exact ⟨text, rfl, hshown.append_left hcounted⟩

end Messages

/-- **The replies of the shell command fit, and lose only what stands behind the limit.**  Whoever
answers: if the author of the message could be looked up, the reply is a text, that of an output or
of a failure, and it has at most 2000 characters, unless the host has a long reason not to start the
command line.  And what stands between the two fences of a block is the text with each fence in it
replaced, or the first 1900 characters of that and an ellipsis; if nothing was cut off, the text is
what is left of it without the characters that have no width. -/
theorem shell_replies_fit :
    (∀ {σ : Type} (answer : (q : Request) → σ → q.Answer × σ) (s : σ) (ctx : Context)
      (message : String) (command : Command) (args : List String),
      ctx.author.bot = false →
      route ctx.settings.commandPrefix ctx.registry message = .command command args →
      command.action = .shell →
      (∀ e, Action.lookedUp (.error e) ∉ (respond ctx message).transcript answer s) →
      ∃ text, ((respond ctx message).run answer s).1 = some (.ofText text) ∧
        Action.ShellText ((respond ctx message).transcript answer s) text) ∧
    ∀ text : String, ∃ broken body,
      Host.IsBroken text.toList broken ∧ Host.IsShown broken body ∧
      (Host.fenced text).toList = "\x60\x60\x60\n".toList ++ body ++ "\n\x60\x60\x60".toList ∧
      ('\u200b' ∉ text.toList → broken.length ≤ 1900 →
        body.filter (fun c => decide (c ≠ '\u200b')) = text.toList) := by
  constructor
  · intro σ answer s ctx message command args hhuman hroute hshell hlookup
    exact exists_shellText_of_runs hhuman hroute hshell
      (runs_transcript answer (respond ctx message) s) hlookup
  · intro text
    refine ⟨Host.breakFences text.toList, Host.fencedBody text.toList, Host.isBroken_iff.2 rfl,
      Host.isShown_truncate _, Host.toList_fenced text, ?_⟩
    intro hwide hshort
    have hbody : Host.fencedBody text.toList = Host.breakFences text.toList :=
      (Host.isShown_truncate _).whole hshort
    have hkeep : text.toList.filter (fun c => decide (c ≠ Host.zeroWidth)) = text.toList := by
      rw [List.filter_eq_self]
      rintro c hc
      rw [decide_eq_true_eq]
      rintro rfl
      exact hwide hc
    rw [hbody]
    exact Host.filter_breakFences.trans hkeep

/-! ### A command line that fails -/

/-- A host on which everybody is an administrator and every command line fails with a complaint in
two lines. -/
def complainingHost : (q : Request) → Unit → q.Answer × Unit
  | .authorIsAdmin, _ => (Except.ok true, ())
  | .service (.shell _), _ => (.ended (.exited 2) [0x6f, 0x6b] [0x6e, 0x6f, 0x0a, 0x21, 0x0a], ())
  | q, _ => (Conversation.refuse q, ())

theorem shell_replies_fit_complaint :
    (∃ command args, route "." Registry.builtin ".sh ls" = .command command args ∧
      command.action = .shell) ∧
    (∀ e, Action.lookedUp (.error e) ∉ (respond searching ".sh ls").transcript complainingHost ()) ∧
    ((respond searching ".sh ls").run complainingHost ()).1 =
      some (.ofText "❌ Command failed: no\n!") := by
  have hto : ∃ command ∈ Command.builtin, command.action = .shell ∧
      route "." Registry.builtin ".sh ls" = .command command ["ls"] := by decide
  obtain ⟨command, -, hshell, hroute⟩ := hto
  have htranscript : (respond searching ".sh ls").transcript complainingHost () =
      [Action.lookedUp (.ok true), Action.launched "ls"
        (.ended (.exited 2) [0x6f, 0x6b] [0x6e, 0x6f, 0x0a, 0x21, 0x0a])] := by rfl
  have hlookup : ∀ e,
      Action.lookedUp (.error e) ∉ (respond searching ".sh ls").transcript complainingHost () := by
    intro e hmem
    rw [htranscript] at hmem
    rcases List.mem_cons.1 hmem with hmem | hmem
    · cases hmem
    · cases List.mem_singleton.1 hmem
  obtain ⟨text, hreply, htext⟩ := shell_replies_fit.1 complainingHost () searching ".sh ls" command
    ["ls"] rfl hroute hshell hlookup
  have hended := htext.ended "ls" (.exited 2) [0x6f, 0x6b] [0x6e, 0x6f, 0x0a, 0x21, 0x0a]
    (by rw [htranscript]; exact List.mem_cons_of_mem _ (List.mem_singleton_self _))
  have hcomplaint : "❌ Command failed: " ++
      Host.complaint (.exited 2) [0x6e, 0x6f, 0x0a, 0x21, 0x0a] =
        "❌ Command failed: no\n!" := by decide +kernel
  refine ⟨⟨command, ["ls"], hroute, hshell⟩, hlookup, ?_⟩
  rw [hreply, hended, if_neg (by decide), hcomplaint]

end CommandBot
