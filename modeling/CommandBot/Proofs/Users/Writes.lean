/-
**What the operations on records write.**

Finding a record, or looking for one without making it, writes nothing.  Every other operation
writes once at most.  Both are seen on the program, before anyone answers it, so that they hold of
every store, however it fails.

Main definitions:

* `CommandBot.StoreRequest.isWrite` — a request that writes;
* `CommandBot.Users.writesOf` — the writes among what was exchanged.

Main results:

* `CommandBot.Users.find_reads`, `CommandBot.Users.get_reads` — looking for a record only reads;
* `CommandBot.Users.recordPost_writes` — recording a command writes once at most;
* `CommandBot.Users.length_writesOf_le`, `CommandBot.Users.writesOf_of_reads` — **no run writes more
  often.**
-/

import CommandBot.Proofs.Program.Bounds
import CommandBot.Store.Users

set_option relaxedAutoImplicit false
set_option autoImplicit false

namespace CommandBot

open Program

/-- A request to the store that writes. -/
def StoreRequest.isWrite : StoreRequest → Bool
  | setFields _ _ => true
  | getAll _ => false

namespace Users

/-! ### Reading -/

theorem readHash_asks (id : UInt64) : (readHash id).Asks (· = .getAll (userKey id)) :=
  .ask rfl fun answer => .done answer

/-- Finding a record is reading its hash. -/
theorem find_asks (id : UInt64) : (find id).Asks (· = .getAll (userKey id)) := by
  refine (readHash_asks id).bind fun answer => ?_
  cases answer with
  | error e => exact .done _
  | ok hash => exact .done _

theorem readHash_reads (id : UInt64) : (readHash id).Asks (·.isWrite = false) := by
  refine (readHash_asks id).mono ?_
  rintro _ rfl
  rfl

theorem find_reads (id : UInt64) : (find id).Asks (·.isWrite = false) := by
  refine (find_asks id).mono ?_
  rintro _ rfl
  rfl

/-- Looking for a record without making it only reads. -/
theorem get_reads (now : Timestamp) (user : User) :
    (get now user false).Asks (·.isWrite = false) := by
  refine (readHash_reads user.id).bind fun answer => ?_
  cases answer with
  | error e => exact .done _
  | ok hash =>
      dsimp only
      split
      · exact .done _
      · exact .done _

/-! ### Writing -/

theorem writeFields_writes (id : UInt64) (fields : List (String × String)) :
    (writeFields id fields).AsksAtMost StoreRequest.isWrite 1 :=
  .spend fun answer => .done 0 answer

/-- What begins with reading writes as often as what follows. -/
theorem bind_writes {α β : Type} {n : Nat} {p : Program StoreRequest.Answer α}
    (hp : p.Asks (·.isWrite = false)) {rest : α → Program StoreRequest.Answer β}
    (h : ∀ found, (rest found).AsksAtMost StoreRequest.isWrite n) :
    (p.bind rest).AsksAtMost StoreRequest.isWrite n := by
  rw [← Nat.zero_add n]
  exact (AsksAtMost.of_asks hp).bind h

theorem set_writes (id : UInt64) (update : UserUpdate) :
    (set id update).AsksAtMost StoreRequest.isWrite 1 := by
  refine bind_writes (find_reads id) fun found => ?_
  cases found with
  | error e => exact .done 1 _
  | ok record =>
      dsimp only
      split
      · exact .done 1 _
      · exact writeFields_writes id update.fields

theorem create_writes (user : User) (now : Timestamp) :
    (create user now).AsksAtMost StoreRequest.isWrite 1 := by
  refine (writeFields_writes user.id _).bind (n := 0) fun written => ?_
  cases written with
  | error e => exact .done 0 _
  | ok _ => exact .of_asks (find_reads user.id)

theorem get_writes (now : Timestamp) (user : User) (createMissing : Bool) :
    (get now user createMissing).AsksAtMost StoreRequest.isWrite 1 := by
  refine bind_writes (readHash_reads user.id) fun answer => ?_
  cases answer with
  | error e => exact .done 1 _
  | ok hash =>
      dsimp only
      split
      · split
        · exact create_writes user now
        · exact .done 1 _
      · exact .done 1 _

theorem countPost_writes (now : Timestamp) (user : User) (record : UserRecord) :
    (countPost now user record).AsksAtMost StoreRequest.isWrite 1 := by
  refine (set_writes user.id _).bind (n := 0) fun written => ?_
  cases written with
  | error e => exact .done 0 _
  | ok _ => exact .done 0 _

/-- **Recording a command writes once at most**, whatever the store answers. -/
theorem recordPost_writes (now : Timestamp) (user : User) :
    (recordPost now user).AsksAtMost StoreRequest.isWrite 1 := by
  refine bind_writes (find_reads user.id) fun found => ?_
  split
  · exact countPost_writes now user _
  · exact get_writes now user true
  · exact .done 1 _

/-! ### The writes of a run -/

/-- The writes among what was exchanged, whether they were made or failed. -/
def writesOf (exchanges : List ((r : StoreRequest) × r.Answer)) : List StoreRequest :=
  (exchanges.map Sigma.fst).filter StoreRequest.isWrite

variable {α : Type} {p : Program StoreRequest.Answer α}
  {exchanges : List ((r : StoreRequest) × r.Answer)} {result : α}

/-- **No run writes more often than its program can.** -/
theorem length_writesOf_le {n : Nat} (hp : p.AsksAtMost StoreRequest.isWrite n)
    (h : Runs p exchanges result) : (writesOf exchanges).length ≤ n := by
  rw [writesOf, ← List.countP_eq_length_filter]
  exact hp.countP_le h

/-- **A program that only reads writes nothing.** -/
theorem writesOf_of_reads (hp : p.Asks (·.isWrite = false)) (h : Runs p exchanges result) :
    writesOf exchanges = [] :=
  List.eq_nil_of_length_eq_zero (Nat.le_zero.1 (length_writesOf_le (.of_asks hp) h))

end Users

end CommandBot
