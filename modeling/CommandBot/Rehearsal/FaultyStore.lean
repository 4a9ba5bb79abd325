/-
**A store that fails on demand.**

For a rehearsal the store is told beforehand when to fail.  A fault waits for a number of requests
of its kind and then trips, once.  On each request the first fault that has waited long enough
trips, and all others of that kind have one request less to wait for.

* `CommandBot.Rehearsal.Fault` — a fault that is to come;
* `CommandBot.Rehearsal.trip` — the fault that trips on a request, and those that remain;
* `CommandBot.Rehearsal.FaultyStore` — a store with the faults that are to come;
* `CommandBot.Rehearsal.FaultyStore.answer` — what such a store answers.
-/

import CommandBot.Store.Request

set_option relaxedAutoImplicit false
set_option autoImplicit false

namespace CommandBot.Rehearsal

/-! ### Faults -/

/-- The kinds of request to the store. -/
inductive Access where
  | read | write
deriving DecidableEq, Repr

/-- The kind of a request. -/
def Access.ofRequest : StoreRequest → Access
  | .getAll _ => .read
  | .setFields _ _ => .write

/-- What a fault does. -/
inductive Effect where
  /-- The request fails and touches nothing. -/
  | refuse
  /-- The request is answered, and then its key is removed. -/
  | vanish
deriving DecidableEq, Repr

/-- A fault that is to come. -/
structure Fault where
  /-- The kind of request that it is for. -/
  access : Access
  /-- The number of requests that it still lets pass. -/
  wait : Nat
  effect : Effect
deriving DecidableEq, Repr

/-- A fault after a request that it let pass. -/
def Fault.countDown (access : Access) (f : Fault) : Fault :=
  if f.access = access then { f with wait := f.wait - 1 } else f

/-- The effect that a request meets with, and the faults that remain after it. -/
def trip (access : Access) : List Fault → Option Effect × List Fault
  | [] => (none, [])
  | f :: rest =>
      -- the faults behind the one that trips let this request pass as well
      if f.access = access ∧ f.wait = 0 then (some f.effect, rest.map (Fault.countDown access))
      else ((trip access rest).1, f.countDown access :: (trip access rest).2)

@[simp] theorem trip_nil (access : Access) : trip access [] = (none, []) := rfl

/-! ### The store -/

/-- A store with the faults that are to come, and the number of requests it got. -/
structure FaultyStore where
  hashes : Store
  faults : List Fault
  reads : Nat
  writes : Nat
deriving DecidableEq, Repr

namespace FaultyStore

/-- A store that got no request yet and has no faults. -/
def ofStore (hashes : Store) : FaultyStore := ⟨hashes, [], 0, 0⟩

/-- The store with one more fault to come. -/
def plant (s : FaultyStore) (f : Fault) : FaultyStore := { s with faults := s.faults ++ [f] }

/-- The store after one more request was counted. -/
def count (s : FaultyStore) : Access → FaultyStore
  | .read => { s with reads := s.reads + 1 }
  | .write => { s with writes := s.writes + 1 }

/-- What a refused request is told. -/
def refusal : StoreError := .backend "injected fault- IoError"

/-- The answer to a request that meets with an effect, and the hashes after it. -/
def answerWith : Option Effect → (r : StoreRequest) → Store → r.Answer × Store
  | none, r, hashes => Store.answer r hashes
  | some .refuse, r, hashes => (r.fail refusal, hashes)
  | some .vanish, r, hashes =>
      ((Store.answer r hashes).1, (Store.answer r hashes).2.erase r.key)

/-- **What such a store answers**, and the store after the request. -/
def answer (r : StoreRequest) (s : FaultyStore) : r.Answer × FaultyStore :=
  let access := Access.ofRequest r
  let met := trip access s.faults
  let answered := answerWith met.1 r s.hashes
  (answered.1, { s.count access with hashes := answered.2, faults := met.2 })

end FaultyStore

end CommandBot.Rehearsal
