/-
**What a command line can come to.**

A shell is started for every command line that can be handed over to it, and what it leaves has a
status.  A line that begins with a sign is taken for switches of the shell: nothing of it runs, and
the shell complains.

Main results:

* `CommandBot.Shell.run_of_nul` — a line with a NUL is not started;
* `CommandBot.Shell.length_le_of_unstartable` — **there are only short reasons not to start a line**;
* `CommandBot.Shell.run_of_sign` — **a line that begins with a sign runs nothing**;
* `CommandBot.Shell.here_run` — the bot stays in its working directory.
-/

import CommandBot.Shell.Launch

set_option relaxedAutoImplicit false
set_option autoImplicit false

namespace CommandBot.Shell

variable {line : String} {files : FileTree}

/-! ### Outcomes -/

/-- **A line with a NUL is not started.** -/
theorem run_of_nul (h : '\x00' ∈ line.toList) :
    run line files = (.unstartable "nul byte found in provided data", files) := by
  rw [run, if_pos (by simpa using h)]

/-- What a shell is run on, from a line without a NUL. -/
theorem run_of_not_nul (h : '\x00' ∉ line.toList) :
    run line files =
      let ran := (Launch.whole (Octets.ofText line.toList)).run.run (Launch.start files.later)
      (Launch.outcome ran.1 ran.2, { ran.2.streams.files with here := files.here }) := by
  rw [run, if_neg (by simpa using h)]
  rfl

/-- **There are only short reasons not to start a line.** -/
theorem length_le_of_unstartable {reason : String} (h : (run line files).1 = .unstartable reason) :
    reason.length ≤ 31 := by
  by_cases hnul : '\x00' ∈ line.toList
  · rw [run_of_nul hnul] at h
    cases h
    decide
  · rw [run_of_not_nul hnul] at h
    dsimp only [Launch.outcome] at h
    split at h
    · cases h
    · cases h
    · cases h
      decide

/-- **The bot stays in its working directory.** -/
theorem here_run (line : String) (files : FileTree) : (run line files).2.here = files.here := by
  by_cases hnul : '\x00' ∈ line.toList
  · rw [run_of_nul hnul]
  · rw [run_of_not_nul hnul]

/-! ### Switches -/

/-- How a shell complains at its start. -/
theorem complaintLead_own (directory : Octets) :
    Exec.complaintLead (Launch.own directory) = "sh: 0: ".toList := by
  have hline : (0 : Nat).repr.toList = ['0'] := by decide
  have hlead : Exec.shellName ++ ": ".toList ++ ['0'] ++ ": ".toList ++ [] = "sh: 0: ".toList := by
    decide
  rw [← hlead, ← hline]
  rfl

/-- A shell that was given switches complains and does nothing else. -/
theorem run_whole_of_fault (files : FileTree) {text fault : Octets}
    (h : Launch.script? text = .error fault) :
    let ran := (Launch.whole text).run.run (Launch.start files)
    Process.endingOf ran.2.own ran.1 = .exited 2 ∧ ran.2.streams.text 0 = [] ∧
      ran.2.streams.text 1 = "sh: 0: ".toList ++ fault ++ ['\n'] ∧ ran.2.streams.files = files := by
  simp only [Launch.whole, Launch.script, h]
  have hend : ∀ s : Octets, [s].flatten = s := by simp
  refine ⟨rfl, rfl, ?_, rfl⟩
  rw [← hend ("sh: 0: ".toList ++ fault ++ ['\n']),
    ← complaintLead_own (FileTree.pathOf files.here)]
  rfl

/-- A line that begins with a sign is no script. -/
theorem exists_fault_of_sign {sign : Char} (hsign : sign = '-' ∨ sign = '+') (rest : List Char) :
    ∃ fault, Launch.script? (Octets.ofText (sign :: rest)) = .error fault := by
  have hfirst : ∀ c ∈ ['-', '+'], Octets.ofText (c :: rest) = c :: Octets.ofText rest := by
    intro c hc
    simp only [List.mem_cons, List.not_mem_nil, or_false] at hc
    rcases hc with rfl | rfl
    · rfl
    · rfl
  rw [hfirst sign (by simpa using hsign)]
  rcases hsign with rfl | rfl
  · unfold Launch.script?
    split
    · exact ⟨_, rfl⟩
    · exact ⟨_, rfl⟩
    · exact ⟨_, rfl⟩
    · next hno _ => exact absurd rfl (hno _)
  · exact ⟨_, rfl⟩

/-- **A line that begins with a sign runs nothing.**  Nothing is printed, no file changes, and the
status is a failure. -/
theorem run_of_sign {sign : Char} {rest : List Char} (hline : line.toList = sign :: rest)
    (hsign : sign = '-' ∨ sign = '+') (hnul : '\x00' ∉ line.toList) :
    ∃ fault, run line files =
      (.ended (.exited 2) [] (Octets.toBytes ("sh: 0: ".toList ++ fault ++ ['\n'])),
        files.later) := by
  obtain ⟨fault, hfault⟩ := exists_fault_of_sign hsign rest
  rw [← hline] at hfault
  obtain ⟨hending, houtput, herrors, hfiles⟩ := run_whole_of_fault files.later hfault
  refine ⟨fault, ?_⟩
  rw [run_of_not_nul hnul]
  dsimp only [Launch.outcome]
  rw [hending, houtput, herrors, hfiles]
  rfl

end CommandBot.Shell
