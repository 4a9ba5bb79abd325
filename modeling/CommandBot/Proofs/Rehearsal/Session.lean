/-
**What a rehearsal shows of the bot.**

In a rehearsal the bot runs as it does anywhere: a message is answered by a run of the same program,
and what is reported are its reply, the queries it sent and the store it left.  Only the services
are played.  So a message that goes to no command touches nothing, and what is known of every run is
known of the rehearsed ones; with a shell on the host, every reply of the shell command fits in one
message, and an administrator who has plain words printed is sent them.

Main definitions:

* `CommandBot.Rehearsal.World.fixed` — what no question to a world changes;
* `CommandBot.Rehearsal.Session.Follows` — a session that differs in its store and files at most.

Main results:

* `CommandBot.Rehearsal.World.queries_run` — **the queries that are kept are those that were sent**;
* `CommandBot.Rehearsal.World.eq_board_of_mem_searches`,
  `CommandBot.Rehearsal.World.eq_host_of_mem_transcript` — who answered is the board and the host;
* `CommandBot.Rehearsal.Template.resolve?_registry`,
  `CommandBot.Rehearsal.Template.route_registryFor` — **filling templates moves no verb**;
* `CommandBot.Rehearsal.Session.step_message` — **a message is answered by a run of the bot**;
* `CommandBot.Rehearsal.Session.getElem?_steps` — every step is reported as it is taken;
* `CommandBot.Rehearsal.Session.shell_fits_throughout` — **the replies of a rehearsed shell fit**;
* `CommandBot.Rehearsal.Session.finding_of_echo` — **plain words that are printed are sent.**
-/

import CommandBot.Proofs.Bot.Searching
import CommandBot.Proofs.Bot.ShellReplies
import CommandBot.Proofs.Registry
import CommandBot.Proofs.Shell.CommandLine
import CommandBot.Rehearsal.Session

set_option relaxedAutoImplicit false
set_option autoImplicit false

namespace CommandBot.Rehearsal

open Program

/-! ### Worlds -/

namespace World

variable {α : Type} {p : Program Request.Answer α} {w : World}

/-- What no question to a world changes: the board, the host and what is known of the author. -/
def fixed (w : World) : Except BoardError (List String) ×
    (String → FileTree → Host.Outcome × FileTree) × Except CommandError Bool × Option UInt64 :=
  (w.board, w.host, w.admin, w.voice)

theorem fixed_answer (q : Request) (w : World) : (answer q w).2.fixed = w.fixed := by
  cases q with
  | service s =>
      cases s with
      | store r =>
          simp only [answer, answerService, answerStore]
          split
          · rfl
          · rfl
      | search query => rfl
      | shell line => rfl
      | readFile path => rfl
  | authorIsAdmin => rfl
  | authorVoice => rfl

/-- No program changes more of a world than its questions do. -/
theorem fixed_run (p : Program Request.Answer α) (w : World) :
    (p.run answer w).2.fixed = w.fixed :=
  (Asks.trivial p).view_run (fun q _ v => fixed_answer q v) w

/-- Whatever is exchanged was answered by a world with the same board, host and author. -/
theorem exists_answer_of_mem {x : (q : Request) × q.Answer} (h : x ∈ p.transcript answer w) :
    ∃ v : World, v.fixed = w.fixed ∧ x.2 = (answer x.1 v).1 :=
  exists_answer_of_mem_transcript fixed fixed_answer h

/-- **Who answers a search is the board.** -/
theorem eq_board_of_mem_searches {query : String} {found : Except BoardError (List String)}
    (h : (query, found) ∈ searches (p.transcript answer w)) : found = w.board := by
  obtain ⟨v, hv, hfound⟩ := exists_answer_of_mem (mem_of_mem_searches h)
  exact hfound.trans (congrArg Prod.fst hv)

/-- **Who runs a command line is the host.** -/
theorem eq_host_of_mem_transcript {line : String} {outcome : Host.Outcome}
    (h : Action.launched line outcome ∈ p.transcript answer w) :
    ∃ files, outcome = (w.host line files).1 := by
  obtain ⟨v, hv, houtcome⟩ := exists_answer_of_mem h
  have hhost : v.host = w.host := congrArg (fun parts => parts.2.1) hv
  refine ⟨v.files, ?_⟩
  rw [← hhost]
  exact houtcome

/-- What is known of the author's roles is what the world has. -/
theorem eq_admin_of_mem_transcript {admin : Except CommandError Bool}
    (h : Action.lookedUp admin ∈ p.transcript answer w) : admin = w.admin := by
  obtain ⟨v, hv, hadmin⟩ := exists_answer_of_mem h
  exact hadmin.trans (congrArg (fun parts => parts.2.2.1) hv)

theorem queries_answer (q : Request) (w : World) :
    (answer q w).2.queries = w.queries ++ (searches [⟨q, (answer q w).1⟩]).map Prod.fst := by
  cases q with
  | service s =>
      cases s with
      | store r =>
          rw [answer, answerService, answerStore]
          split
          · exact (List.append_nil _).symm
          · exact (List.append_nil _).symm
      | search query => rfl
      | shell line => exact (List.append_nil _).symm
      | readFile path => exact (List.append_nil _).symm
  | authorIsAdmin => exact (List.append_nil _).symm
  | authorVoice => exact (List.append_nil _).symm

/-- **The queries that are kept are those that were sent.** -/
theorem queries_run (p : Program Request.Answer α) (w : World) :
    (w.run p).2.queries = w.queries ++ (searches (p.transcript answer w)).map Prod.fst := by
  rw [run]
  induction p generalizing w with
  | done a => exact (List.append_nil _).symm
  | ask q next ih =>
      rw [run_ask, transcript_ask, ih, queries_answer, List.append_assoc, ← List.map_append,
        ← searches_append]
      rfl

end World

/-! ### Templates -/

namespace Template

variable {commands : List Command} {r : Registry} {lead message : String}

@[simp] theorem verbs_command (args : List String) (c : Command) :
    (command args c).verbs = c.verbs := by
  unfold command
  split
  · rfl
  · rfl

/-- A command that is no template stays as it is. -/
theorem command_of_shell {c : Command} (h : c.action = .shell) (args : List String) :
    command args c = c := by
  rw [command, h]

theorem registrable_map (args : List String) (h : Registry.Registrable commands) :
    Registry.Registrable (commands.map (command args)) where
  invocable c hc := by
    obtain ⟨d, hd, rfl⟩ := List.mem_map.1 hc
    rw [verbs_command]
    exact h.invocable d hd
  clear := by
    have hverbs : Registry.verbsOf (commands.map (command args)) = Registry.verbsOf commands := by
      simp only [Registry.verbsOf, List.flatMap_map, verbs_command]
    rw [hverbs]
    exact h.clear

/-- Commands that were registered can be registered with their templates filled. -/
theorem commands_registry (args : List String) (h : Registry.register commands = .ok r) :
    (registry args r).commands = commands.map (command args) := by
  have hregistrable := registrable_map args (Registry.exists_register_iff.1 ⟨r, h⟩)
  obtain ⟨filled, hfilled⟩ := Registry.exists_register_iff.2 hregistrable
  rw [registry, Registry.commands_of_register h, hfilled]
  exact Registry.commands_of_register hfilled

/-- **Filling templates moves no verb.** -/
theorem resolve?_registry (args : List String) (h : Registry.register commands = .ok r)
    (verb : String) : (registry args r).resolve? verb = (r.resolve? verb).map (command args) := by
  refine Option.ext fun c => ?_
  rw [Registry.resolve?_eq_some_iff_mem, commands_registry args h, Option.map_eq_some_iff]
  constructor
  · rintro ⟨hc, hverb⟩
    obtain ⟨d, hd, rfl⟩ := List.mem_map.1 hc
    rw [verbs_command] at hverb
    rw [← Registry.commands_of_register h] at hd
    exact ⟨d, Registry.resolve?_eq_some_iff_mem.2 ⟨hd, hverb⟩, rfl⟩
  · rintro ⟨d, hd, rfl⟩
    obtain ⟨hd, hverb⟩ := Registry.resolve?_eq_some_iff_mem.1 hd
    rw [Registry.commands_of_register h] at hd
    exact ⟨List.mem_map_of_mem hd, by rwa [verbs_command]⟩

/-- **Nor does it send a message elsewhere**: what is filled in are the arguments of the message. -/
theorem route_registryFor (h : Registry.register commands = .ok r) :
    route lead (registryFor lead message r) message =
      match route lead r message with
      | .command c args => .command (command args c) args
      | other => other := by
  cases hparse : Invocation.parse? lead message with
  | none => simp only [route, hparse]
  | some i =>
      simp only [route, registryFor, hparse, resolve?_registry i.args h]
      cases r.resolve? i.verb with
      | none => rfl
      | some c => rfl

end Template

/-! ### Sessions -/

namespace Session

variable {s t : Session} {scene : Scene} {text : String} {commands : List Command}

/-- **A message is answered by a run of the bot.**  Reported are its reply and the queries it sent;
the store and the files are what it left. -/
theorem step_message (s : Session) (scene : Scene) (text : String) :
    let p := respond (s.contextFor scene text) text
    let played := (s.world scene).run p
    s.step (.message scene text) =
      (⟨.sent played.1, (searches (p.transcript World.answer (s.world scene))).map Prod.fst,
        played.2.store⟩, { s with store := played.2.store, files := played.2.files }) := by
  dsimp only
  rw [step, play, World.queries_run]
  rfl

/-- **A message that goes to no command touches nothing.** -/
theorem step_message_of_not_command (h : Registry.register commands = .ok s.registry)
    (hroute : ∀ c args, route s.settings.commandPrefix s.registry text ≠ .command c args) :
    ∃ reply, s.step (.message scene text) = (⟨.sent reply, [], s.store⟩, s) := by
  have hdone : ∃ reply, respond (s.contextFor scene text) text = .done reply := by
    unfold respond
    split
    · exact ⟨none, rfl⟩
    · have hsame : route s.settings.commandPrefix (s.contextFor scene text).registry text =
          route s.settings.commandPrefix s.registry text := by
        rw [contextFor, Template.route_registryFor h]
        split
        · next c args heq => exact absurd heq (hroute c args)
        · rfl
      have hplain : ∀ c args, route (s.contextFor scene text).settings.commandPrefix
          (s.contextFor scene text).registry text ≠ .command c args := by
        intro c args heq
        exact hroute c args (hsame.symm.trans heq)
      split
      · split
        · exact ⟨_, rfl⟩
        · exact ⟨_, rfl⟩
      · split
        · exact ⟨_, rfl⟩
        · exact ⟨_, rfl⟩
      · next c args heq => exact absurd heq (hplain c args)
  obtain ⟨reply, hreply⟩ := hdone
  refine ⟨reply, ?_⟩
  rw [step, hreply]
  rfl

/-! ### Steps -/

/-- A session that differs from another in its store and files at most. -/
structure Follows (t s : Session) : Prop where
  settings : t.settings = s.settings
  registry : t.registry = s.registry
  host : t.host = s.host
  now : t.now = s.now
  draw : t.draw = s.draw

theorem Follows.refl (s : Session) : s.Follows s := ⟨rfl, rfl, rfl, rfl, rfl⟩

theorem Follows.trans {u : Session} (h : u.Follows t) (h' : t.Follows s) : u.Follows s where
  settings := h.settings.trans h'.settings
  registry := h.registry.trans h'.registry
  host := h.host.trans h'.host
  now := h.now.trans h'.now
  draw := h.draw.trans h'.draw

theorem follows_update (s : Session) (store : Option FaultyStore) (files : FileTree) :
    Follows { s with store, files } s := ⟨rfl, rfl, rfl, rfl, rfl⟩

/-- **No step changes more than the store and the files.** -/
theorem step_follows (s : Session) (a : Step) : (s.step a).2.Follows s := by
  have hoperate : ∀ {α : Type} (p : Program StoreRequest.Answer α) (finding : α → Finding),
      (s.operate p finding).2.Follows s := by
    intro α p finding
    unfold operate
    split
    · exact s.follows_update _ s.files
    · exact s.follows_update _ s.files
  have hverb : ∀ (scene : Scene) (verb : String) (args : List String) (task : Command → Task Reply),
      (s.playVerb scene verb args task).2.Follows s := by
    intro scene verb args task
    unfold playVerb
    split
    · exact s.follows_update _ s.files
    · exact s.follows_update _ _
  cases a with
  | message scene text => exact s.follows_update _ _
  | run scene verb args => exact hverb scene verb args _
  | handle scene verb args => exact hverb scene verb args _
  | find id => exact hoperate _ _
  | get user createMissing => exact hoperate _ _
  | set id update => exact hoperate _ _
  | recordPost user => exact hoperate _ _
  | write key fields => exact s.follows_update _ s.files
  | remove key => exact s.follows_update _ s.files
  | plant fault => exact s.follows_update _ s.files

/-- **A step is reported as it is taken**, in a session that follows the first one. -/
theorem getElem?_steps {steps : List Step} {i : Nat} {a : Step} (h : steps[i]? = some a) :
    ∃ t : Session, t.Follows s ∧ (s.steps steps)[i]? = some (t.step a).1 := by
  induction steps generalizing s i with
  | nil => cases h
  | cons b rest ih =>
      cases i with
      | zero =>
          cases h
          exact ⟨s, .refl s, rfl⟩
      | succ i =>
          obtain ⟨t, ht, hreport⟩ := ih (s := (s.step b).2) (i := i) h
          exact ⟨t, ht.trans (s.step_follows b), hreport⟩

/-! ### A rehearsed shell -/

section Shell

variable {c : Command} {args : List String}

/-- A message goes to the shell command as it would anywhere. -/
theorem route_contextFor_of_shell (scene : Scene) (h : Registry.register commands = .ok s.registry)
    (hroute : route s.settings.commandPrefix s.registry text = .command c args)
    (hshell : c.action = .shell) :
    route s.settings.commandPrefix (s.contextFor scene text).registry text = .command c args := by
  rw [contextFor, Template.route_registryFor h, hroute]
  dsimp only
  rw [Template.command_of_shell hshell]

/-- **The replies of a rehearsed shell fit in one message.** -/
theorem shell_fits (h : Registry.register commands = .ok s.registry) (hhost : s.host = Shell.run)
    (hhuman : scene.author.bot = false) (hadmin : ∀ e, scene.admin ≠ .error e)
    (hroute : route s.settings.commandPrefix s.registry text = .command c args)
    (hshell : c.action = .shell) :
    ∃ shown, (s.step (.message scene text)).1.finding = .sent (some (.ofText shown)) ∧
      shown.length ≤ 2000 := by
  have hto := route_contextFor_of_shell scene h hroute hshell
  have hruns := runs_transcript World.answer (respond (s.contextFor scene text) text)
    (s.world scene)
  obtain ⟨shown, hreply, htext⟩ := exists_shellText_of_runs hhuman hto hshell hruns fun e hmem =>
    hadmin e (World.eq_admin_of_mem_transcript hmem).symm
  refine ⟨shown, congrArg Finding.sent hreply, htext.fits fun line reason hmem => ?_⟩
  -- The shell has only short reasons not to start a line.
  obtain ⟨files, houtcome⟩ := World.eq_host_of_mem_transcript hmem
  have hhosted : (s.world scene).host = Shell.run := hhost
  rw [hhosted] at houtcome
  have hshort := Shell.length_le_of_unstartable houtcome.symm
  omega

/-- Whatever the steps before, every reply of the shell fits. -/
theorem shell_fits_throughout (h : Registry.register commands = .ok s.registry)
    (hhost : s.host = Shell.run) {steps : List Step} {i : Nat}
    (hstep : steps[i]? = some (.message scene text)) (hhuman : scene.author.bot = false)
    (hadmin : ∀ e, scene.admin ≠ .error e)
    (hroute : route s.settings.commandPrefix s.registry text = .command c args)
    (hshell : c.action = .shell) :
    ∃ shown, ((s.steps steps)[i]?).map Report.finding = some (.sent (some (.ofText shown))) ∧
      shown.length ≤ 2000 := by
  obtain ⟨t, ht, hreport⟩ := getElem?_steps (s := s) hstep
  rw [← ht.registry] at h
  rw [← ht.settings, ← ht.registry] at hroute
  obtain ⟨shown, hfinding, hlength⟩ :=
    shell_fits h (ht.host.trans hhost) hhuman hadmin hroute hshell
  exact ⟨shown, by rw [hreport, Option.map_some, hfinding], hlength⟩

/-- What the shell command comes to with a command line that succeeds. -/
theorem run_runAsAdmin {w : World} (hadmin : w.admin = .ok true)
    (hline : Text.isBlank (Search.line args) = false) {status : Host.Status}
    {output errors : List UInt8} (hstatus : status.isSuccess = true)
    (hhost : ∀ files, (w.host (Search.line args) files).1 = .ended status output errors) :
    ((Action.runAsAdmin args).run World.answer w).1 =
      .ok (.ofText (Host.fenced (String.ofList (Text.Utf8.decodeLossy output)))) := by
  have hasked : World.answer .authorIsAdmin w = (.ok true, w) := by rw [World.answer, hadmin]
  have hran : (World.answer (.service (.shell (Search.line args))) w).1 =
      .ended status output errors := hhost w.files
  rw [Action.runAsAdmin, run_ask, hasked]
  dsimp only
  rw [if_pos rfl, Action.runLine, Text.isEmpty_trim, hline, if_neg Bool.false_ne_true, run_ask,
    hran]
  dsimp only [Host.result]
  rw [hstatus]
  rfl

/-- A shell command that needs no store is performed at once. -/
theorem execute_of_shell (hshell : c.action = .shell) (hstore : c.needsStore = false)
    (ctx : Context) : c.execute args ctx = Action.runAsAdmin args := by
  rw [Command.execute, hstore, Bool.false_and, if_neg Bool.false_ne_true, hshell]
  rfl

/-- **A command line that succeeds is answered with what it printed.** -/
theorem finding_of_succeeds (h : Registry.register commands = .ok s.registry)
    (hhuman : scene.author.bot = false) (hadmin : scene.admin = .ok true)
    (hroute : route s.settings.commandPrefix s.registry text = .command c args)
    (hshell : c.action = .shell) (hstore : c.needsStore = false)
    (hblank : Text.isBlank (Search.line args) = false) {status : Host.Status}
    {output errors : List UInt8} (hstatus : status.isSuccess = true)
    (hhost : ∀ files, (s.host (Search.line args) files).1 = .ended status output errors) :
    (s.step (.message scene text)).1.finding =
      .sent (some (.ofText (Host.fenced (String.ofList (Text.Utf8.decodeLossy output))))) := by
  have hto := route_contextFor_of_shell scene h hroute hshell
  obtain ⟨verb, hparse, -⟩ := route_eq_command hto
  have hignored : ¬ (s.contextFor scene text).Ignores text :=
    not_ignores_of_isWritten hhuman (Invocation.parse?_eq_some_iff.1 hparse)
  have hreply : ((s.world scene).run (respond (s.contextFor scene text) text)).1 =
      some (.ofText (Host.fenced (String.ofList (Text.Utf8.decodeLossy output)))) := by
    rw [World.run, respond_of_command hignored hto, run_respondCommand]
    -- Counting the command changes neither the host nor what is known of the author.
    have hfixed := World.fixed_run (countAuthor (s.contextFor scene text)) (s.world scene)
    generalize ((countAuthor (s.contextFor scene text)).run World.answer (s.world scene)).2 = w
      at hfixed
    have hauthor : w.admin = .ok true :=
      (congrArg (fun parts => parts.2.2.1) hfixed).trans hadmin
    have hhosted : w.host = s.host := congrArg (fun parts => parts.2.1) hfixed
    have hspeaks : Speaks (.ok (.ofText (Host.fenced (String.ofList
        (Text.Utf8.decodeLossy output))))) := speaks_ok (by simp [Host.fenced, Host.fence])
    have hline (files : FileTree) : (w.host (Search.line args) files).1 =
        .ended status output errors := by rw [hhosted, hhost files]
    rw [execute_of_shell hshell hstore, run_runAsAdmin hauthor hblank hstatus hline]
    exact hspeaks.nonempty?_replyOf
  rw [step, play]
  exact congrArg Finding.sent hreply

/-- **An administrator who has plain words printed is sent them**, between fences. -/
theorem finding_of_echo (h : Registry.register commands = .ok s.registry)
    (hshellHost : s.host = Shell.run) (hhuman : scene.author.bot = false)
    (hadmin : scene.admin = .ok true) {words : List String}
    (hroute : route s.settings.commandPrefix s.registry text = .command c ("echo" :: words))
    (hshell : c.action = .shell) (hstore : c.needsStore = false)
    (hwords : ∀ t ∈ Shell.octetsOf words, Shell.IsPlainWord t) (hn : words.head? ≠ some "-n") :
    (s.step (.message scene text)).1.finding =
      .sent (some (.ofText (Host.fenced (" ".intercalate words ++ "\n")))) := by
  have hline : Text.isBlank (Search.line ("echo" :: words)) = false := by
    have hletter : Text.isSpace 'e' = false := by decide
    rw [Text.isBlank, Search.line, String.toList_intercalate, List.map_cons,
      Text.intercalate_cons_eq_flatMap]
    simp [hletter]
  have hechoed (files : FileTree) : (s.host (Search.line ("echo" :: words)) files).1 =
      .ended (.exited 0) (Text.Utf8.bytes (" ".intercalate words ++ "\n").toList) [] := by
    rw [hshellHost, Search.line, Shell.run_echo files hwords hn]
  have hfinding := finding_of_succeeds h hhuman hadmin hroute hshell hstore hline rfl hechoed
  rw [Text.Utf8.decodeLossy_bytes, String.ofList_toList] at hfinding
  exact hfinding

end Shell

end Session

end CommandBot.Rehearsal
