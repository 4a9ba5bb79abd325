/-
**What the server hears.**

A server hears the greeting of a connection and then the requests of the operations, one command
each.  A password is sent first and only if there is one, and the first database need not be turned
to.  An operation on the record of a user sends commands about that user's key only, and one command
that writes at most.  A key on which commands are refused stops every operation at its first
command.

Main results:

* `CommandBot.Redis.Command.words_ofRequest_injective` — **different requests are sent as different
  words**;
* `CommandBot.Redis.Connection.mem_greeting_iff` — what a greeting consists of;
* `CommandBot.Rehearsal.RedisServer.commands_run` — **the server hears what is asked**;
* `CommandBot.Rehearsal.RedisServer.commands_operation` — what it hears of an operation;
* `CommandBot.Rehearsal.RedisServer.run_of_refused` — **a refused key stays as it is.**
-/

import CommandBot.Proofs.Users.Independence
import CommandBot.Proofs.Users.Writes
import CommandBot.Rehearsal.RedisServer

set_option relaxedAutoImplicit false
set_option autoImplicit false

namespace CommandBot

open Program Users

/-! ### Commands -/

namespace Redis

/-- Names and values one after another show the fields. -/
theorem flatMap_pair_injective {fields fields' : List (String × String)}
    (h : (fields.flatMap fun field => [field.1, field.2]) =
      fields'.flatMap fun field => [field.1, field.2]) : fields = fields' := by
  induction fields generalizing fields' with
  | nil =>
      cases fields' with
      | nil => rfl
      | cons field fields' => cases h
  | cons field fields ih =>
      cases fields' with
      | nil => cases h
      | cons field' fields' =>
          simp only [List.flatMap_cons, List.cons_append, List.nil_append, List.cons.injEq] at h
          obtain ⟨hname, hvalue, hrest⟩ := h
          rw [ih hrest, Prod.ext hname hvalue]

/-- **Different requests are sent as different words.** -/
theorem Command.words_ofRequest_injective {r r' : StoreRequest}
    (h : (ofRequest r).words = (ofRequest r').words) : r = r' := by
  cases r with
  | getAll key =>
      cases r' with
      | getAll key' => simpa [ofRequest, words] using h
      | setFields key' fields' => simp [ofRequest, words] at h
  | setFields key fields =>
      cases r' with
      | getAll key' => simp [ofRequest, words] at h
      | setFields key' fields' =>
          simp only [ofRequest, words, List.cons.injEq, true_and] at h
          obtain ⟨rfl, hfields⟩ := h
          rw [flatMap_pair_injective hfields]

/-- A command that writes. -/
def Command.isWrite : Command → Bool
  | .setFields _ _ => true
  | _ => false

theorem Command.isWrite_ofRequest (r : StoreRequest) : (ofRequest r).isWrite = r.isWrite := by
  cases r with
  | getAll key => rfl
  | setFields key fields => rfl

/-! ### Greetings -/

namespace Connection

variable {c : Connection}

/-- **What a greeting consists of**: the password if there is one, the database unless it is the
first, and a sign of life. -/
theorem mem_greeting_iff {command : Command} : command ∈ c.greeting ↔
    (∃ password, c.password = some password ∧ command = .auth c.username password) ∨
      (c.database ≠ 0 ∧ command = .select c.database) ∨ command = .ping := by
  have hcredentials : command ∈ c.credentials ↔
      ∃ password, c.password = some password ∧ command = .auth c.username password := by
    unfold credentials
    cases c.password with
    | none => simp
    | some password => simp
  have hselection : command ∈ c.selection ↔ c.database ≠ 0 ∧ command = .select c.database := by
    unfold selection
    split
    · next h => simp [h]
    · next h => simp [h]
  rw [greeting, List.mem_append, List.mem_append, hcredentials, hselection, List.mem_singleton,
    or_assoc]

/-- A password is sent before anything else. -/
theorem head?_greeting {password : String} (h : c.password = some password) :
    c.greeting.head? = some (.auth c.username password) := by
  rw [greeting, credentials, h]
  rfl

/-- **A password that is given is the one that is sent**, whatever the address says. -/
theorem head?_greeting_of_ofUrl {url password : String} (h : ofUrl url (some password) = .ok c) :
    c.greeting.head? = some (.auth c.username password) := by
  refine head?_greeting ?_
  unfold ofUrl at h
  cases hread : read url with
  | error fault =>
      rw [hread] at h
      cases h
  | ok found =>
      rw [hread] at h
      cases h
      rfl

end Connection

end Redis

/-! ### Operations -/

namespace Rehearsal

/-- The user whose record an operation is about. -/
def Operation.id : Operation → UInt64
  | find id => id
  | get user _ => user.id
  | set id _ => id
  | recordPost user => user.id

variable (now : Timestamp) (operation : Operation)

theorem Operation.program_isAbout : (operation.program now).Asks (IsAbout operation.id) := by
  cases operation with
  | find id => exact (find_isAbout id).bind fun _ => .done _
  | get user createMissing => exact (get_isAbout now user createMissing).bind fun _ => .done _
  | set id update => exact (set_isAbout id update).bind fun _ => .done _
  | recordPost user => exact (recordPost_asks now user).bind fun _ => .done _

theorem Operation.program_writes :
    (operation.program now).AsksAtMost StoreRequest.isWrite 1 := by
  cases operation with
  | find id => exact (bind_writes (find_reads id) fun _ => .done 0 _).mono (Nat.zero_le 1)
  | get user createMissing =>
      exact (get_writes now user createMissing).bind (n := 0) fun _ => .done 0 _
  | set id update => exact (set_writes id update).bind (n := 0) fun _ => .done 0 _
  | recordPost user => exact (recordPost_writes now user).bind (n := 0) fun _ => .done 0 _

namespace RedisServer

variable {α : Type} {now operation} {s : RedisServer}

/-- **The server hears what is asked**, one command for each request. -/
theorem commands_run (p : Program StoreRequest.Answer α) (s : RedisServer) :
    (p.run answer s).2.commands =
      s.commands ++ (p.transcript answer s).map fun x => .ofRequest x.1 := by
  induction p generalizing s with
  | done a => simp
  | ask r next ih =>
      have hcommands : (answer r s).2.commands = s.commands ++ [.ofRequest r] := by
        unfold answer
        dsimp only
        split
        · rfl
        · rfl
      rw [run_ask, ih, transcript_ask, hcommands, List.map_cons, List.append_assoc]
      rfl

/-- **What the server hears of an operation**: commands about the key of its user, of which one
writes at most. -/
theorem commands_operation (h : s.commands = []) :
    (∀ command ∈ ((operation.program now).run answer s).2.commands,
      command = .getAll (userKey operation.id) ∨
        ∃ fields, command = .setFields (userKey operation.id) fields) ∧
      ((operation.program now).run answer s).2.commands.countP Redis.Command.isWrite ≤ 1 := by
  have hruns := runs_transcript answer (operation.program now) s
  rw [commands_run, h, List.nil_append]
  constructor
  · intro command hmem
    obtain ⟨⟨r, a⟩, hx, rfl⟩ := List.mem_map.1 hmem
    have habout : IsAbout operation.id r := (operation.program_isAbout now).of_runs hruns _ hx
    cases r with
    | getAll key =>
        obtain rfl : key = userKey operation.id := habout
        exact .inl rfl
    | setFields key fields =>
        obtain rfl : key = userKey operation.id := habout
        exact .inr ⟨fields, rfl⟩
  · have hone := (operation.program_writes now).countP_le hruns
    rw [List.countP_map] at hone ⊢
    simpa only [Function.comp_def, Redis.Command.isWrite_ofRequest] using hone

/-! ### Refused keys -/

/-- The server after a read that it refused. -/
def afterRefusal (id : UInt64) (s : RedisServer) : RedisServer :=
  { s with commands := s.commands ++ [.getAll (userKey id)] }

section Refused

variable {id : UInt64}

theorem run_readHash_of_refused (h : userKey id ∈ s.refused) :
    (readHash id).run answer s = (.error refusal, s.afterRefusal id) := by
  have hrun : (readHash id).run answer s = answer (.getAll (userKey id)) s := rfl
  have hrefused : s.refused.contains (StoreRequest.getAll (userKey id)).key = true := by
    simpa [StoreRequest.key] using h
  rw [hrun, answer, if_pos hrefused]
  rfl

theorem run_find_of_refused (h : userKey id ∈ s.refused) :
    (find id).run answer s = (.error refusal, s.afterRefusal id) := by
  rw [find, run_bind, run_readHash_of_refused h]
  rfl

/-- **A refused key stays as it is.**  Every operation on it fails at its first command. -/
theorem run_of_refused (h : userKey operation.id ∈ s.refused) :
    (operation.program now).run answer s = (.error refusal, s.afterRefusal operation.id) := by
  cases operation with
  | find id =>
      have hkey : userKey id ∈ s.refused := h
      rw [Operation.program, run_bind, run_find_of_refused hkey]
      rfl
  | get user createMissing =>
      have hkey : userKey user.id ∈ s.refused := h
      rw [Operation.program, run_bind, Users.get, run_bind, run_readHash_of_refused hkey]
      rfl
  | set id update =>
      have hkey : userKey id ∈ s.refused := h
      rw [Operation.program, run_bind, Users.set, run_bind, run_find_of_refused hkey]
      rfl
  | recordPost user =>
      have hkey : userKey user.id ∈ s.refused := h
      rw [Operation.program, run_bind, recordPost, run_bind, run_find_of_refused hkey]
      rfl

end Refused

end RedisServer

end Rehearsal

end CommandBot
