/-
**Arithmetic stays within 64 bits.**

The numbers of a script have 64 bits.  What is read is cut down to them, and so is what an operation
makes of two of them, except for the one quotient that does not fit, which is a fault.  So whatever an
expression is made of, its value and everything that it assigns to parameters fit.

Main definitions:

* `CommandBot.Shell.Arithmetic.IsSound` — a state in which all numbers fit;
* `CommandBot.Shell.Arithmetic.Yields` — a computation that keeps to such states, with a property of
  its result;
* `CommandBot.Shell.Arithmetic.Parts.AreSound` — parts whose values fit.

Main results:

* `CommandBot.Shell.Numeral.wrap_eq_self_iff` — a number is left as it is exactly if it fits;
* `CommandBot.Shell.Arithmetic.fits_of_apply` — **an operation on numbers that fit gives one**;
* `CommandBot.Shell.Arithmetic.areSound_parts` — so does every part of an expression, by induction on
  the number of steps;
* `CommandBot.Shell.Arithmetic.compute_fits` — **the value and the assignments of a text fit.**
-/

import CommandBot.Shell.Arithmetic

set_option relaxedAutoImplicit false
set_option autoImplicit false

namespace CommandBot.Shell

/-! ### Numbers -/

namespace Numeral

variable {n : Int}

theorem fits_iff : fits n = true ↔ -0x8000000000000000 ≤ n ∧ n ≤ 0x7fffffffffffffff := by
  rw [fits, Bool.and_eq_true, decide_eq_true_eq, decide_eq_true_eq]
  rfl

theorem fits_wrap (n : Int) : fits (wrap n) = true := by
  have hlow := Int.le_bmod (x := n) (m := UInt64.size) (by decide)
  have hhigh := Int.bmod_lt (x := n) (m := UInt64.size) (by decide)
  rw [fits_iff, wrap]
  simp only [UInt64.size] at *
  omega

/-- A number is left as it is exactly if it fits. -/
theorem wrap_eq_self_iff : wrap n = n ↔ fits n = true := by
  constructor
  · intro h
    rw [← h]
    exact fits_wrap n
  · intro h
    obtain ⟨hlow, hhigh⟩ := fits_iff.1 h
    refine Int.bmod_eq_of_le ?_ ?_
    · simp only [UInt64.size]
      omega
    · simp only [UInt64.size]
      omega

theorem fits_clamp (n : Int) : fits (clamp n) = true := by
  rw [fits_iff, clamp]
  simp only [least, greatest]
  omega

theorem fits_of_whole? {s : Octets} (h : whole? s = some n) : fits n = true := by
  rw [whole?] at h
  split at h
  · cases h
    decide
  · rw [ended?.eq_def] at h
    split at h
    · split at h
      · next hread =>
          cases h
          exact (Bool.and_eq_true_iff.1 hread).1
      · cases h
    · cases h

end Numeral

namespace Arithmetic

open Numeral

/-! ### Operations -/

theorem fits_ofBool (b : Bool) : fits (ofBool b) = true := by
  cases b with
  | true => decide
  | false => decide

/-- A quotient fits unless the least number is divided by minus one. -/
theorem fits_tdiv {a b : Int} (ha : fits a = true) (hover : ¬ (a = least ∧ b = -1)) (hb : b ≠ 0) :
    fits (a.tdiv b) = true := by
  obtain ⟨hlow, hhigh⟩ := fits_iff.1 ha
  rw [least] at hover
  by_cases hone : b = 1
  · rwa [hone, Int.tdiv_one]
  by_cases hminus : b = -1
  · rw [hminus, Int.tdiv_neg, Int.tdiv_one, fits_iff]
    omega
  -- Any other divisor makes the number half as large at least.
  have hsize := Int.natAbs_tdiv a b
  have hhalf : a.natAbs.div b.natAbs ≤ a.natAbs.div 2 :=
    Nat.div_le_div_left (by omega) (by decide)
  have hdiv : a.natAbs.div 2 = a.natAbs / 2 := rfl
  rw [fits_iff]
  omega

/-- A remainder fits, since it is no larger than what is divided. -/
theorem fits_tmod {a b : Int} (ha : fits a = true) : fits (a.tmod b) = true := by
  obtain ⟨hlow, hhigh⟩ := fits_iff.1 ha
  have hsize : (a.tmod b).natAbs ≤ a.natAbs := by
    rw [Int.natAbs_tmod]
    exact Nat.mod_le _ _
  rw [fits_iff]
  by_cases hsign : 0 ≤ a
  · have hpositive := Int.tmod_nonneg b hsign
    omega
  · have hnegative : 0 ≤ (-a).tmod b := Int.tmod_nonneg b (by omega)
    rw [Int.neg_tmod] at hnegative
    omega

theorem fits_shiftRight {a : Int} (ha : fits a = true) (k : Nat) : fits (a >>> k) = true := by
  obtain ⟨hlow, hhigh⟩ := fits_iff.1 ha
  have hpower : (1 : Int) ≤ ((2 ^ k : Nat) : Int) := Int.ofNat_le.2 (Nat.two_pow_pos k)
  have hlarge : (0x8000000000000000 : Int) * 1 ≤ 0x8000000000000000 * ((2 ^ k : Nat) : Int) :=
    Int.mul_le_mul_of_nonneg_left hpower (by decide)
  rw [Int.shiftRight_eq_div_pow, fits_iff]
  constructor
  · refine Int.le_ediv_of_mul_le hpower ?_
    omega
  · refine Int.ediv_le_of_le_mul hpower ?_
    omega

theorem fits_of_divide {f : Int → Int → Int} {a b n : Int} (h : divide f a b = .ok n)
    (hf : b ≠ 0 → ¬ (a = least ∧ b = -1) → fits (f a b) = true) : fits n = true := by
  rw [divide] at h
  split at h
  · cases h
  · next hb =>
      split at h
      · cases h
      · next hover =>
          cases h
          exact hf hb hover

theorem fits_of_ok {m n : Int} (h : (.ok m : Except Fault Int) = .ok n) (hm : fits m = true) :
    fits n = true := by
  cases h
  exact hm

/-- **An operation on numbers that fit gives one that fits**, or a fault. -/
theorem fits_of_apply {op : Operation} {a b n : Int} (ha : fits a = true) (h : apply op a b = .ok n) :
    fits n = true := by
  cases op with
  | add => exact fits_of_ok h (fits_wrap _)
  | sub => exact fits_of_ok h (fits_wrap _)
  | mul => exact fits_of_ok h (fits_wrap _)
  | div => exact fits_of_divide h fun hb hover => fits_tdiv ha hover hb
  | mod => exact fits_of_divide h fun _ _ => fits_tmod ha
  | shl => exact fits_of_ok h (fits_wrap _)
  | shr => exact fits_of_ok h (fits_shiftRight ha _)
  | lt => exact fits_of_ok h (fits_ofBool _)
  | le => exact fits_of_ok h (fits_ofBool _)
  | gt => exact fits_of_ok h (fits_ofBool _)
  | ge => exact fits_of_ok h (fits_ofBool _)
  | eq => exact fits_of_ok h (fits_ofBool _)
  | ne => exact fits_of_ok h (fits_ofBool _)
  | and => exact fits_of_ok h (fits_wrap _)
  | xor => exact fits_of_ok h (fits_wrap _)
  | or => exact fits_of_ok h (fits_wrap _)

/-! ### Tokens -/

/-- The numbers of a text are cut down when they are read. -/
theorem fits_of_mem_tokensIn {fuel : Nat} {s : Octets} {n : Int}
    (h : Token.number n ∈ tokensIn fuel s) : fits n = true := by
  induction fuel generalizing s with
  | zero => cases h
  | succ fuel ih =>
      cases s with
      | nil => cases h
      | cons c rest =>
          rw [tokensIn] at h
          split at h
          · exact ih h
          · split at h
            · split at h
              · rcases List.mem_cons.1 h with hfirst | h
                · cases hfirst
                  exact fits_clamp _
                · exact ih h
              · exact ih h
            · split at h
              · rcases List.mem_cons.1 h with hfirst | h
                · cases hfirst
                · exact ih h
              · split at h
                · rcases List.mem_cons.1 h with hfirst | h
                  · cases hfirst
                  · exact ih h
                · rcases List.mem_cons.1 h with hfirst | h
                  · cases hfirst
                  · exact ih h

/-! ### Computations -/

/-- A state in which all numbers fit. -/
structure IsSound (s : State) : Prop where
  tokens : ∀ n, Token.number n ∈ s.tokens → fits n = true
  assigned : ∀ x ∈ s.assigned, fits x.2 = true

/-- **A computation that keeps to sound states**, with a property of its result. -/
def Yields {α : Type} (P : α → Prop) (c : Computation α) : Prop :=
  ∀ s, IsSound s → IsSound (c.run.run s).2 ∧ ∀ a, (c.run.run s).1 = .ok a → P a

/-- A computation whose value fits. -/
abbrev Fits (c : Computation Int) : Prop := Yields (fun n => fits n = true) c

section Yields

variable {α β : Type} {P : α → Prop} {Q : β → Prop}

theorem yields_pure {a : α} (h : P a) : Yields P (pure a) := by
  intro s hs
  refine ⟨hs, fun a' ha' => ?_⟩
  cases ha'
  exact h

theorem yields_throw (fault : Fault) : Yields P (throw fault) := by
  intro s hs
  refine ⟨hs, fun a ha => ?_⟩
  cases ha

/-- One computation after another. -/
theorem Yields.bind {c : Computation α} {f : α → Computation β} (hc : Yields P c)
    (hf : ∀ a, P a → Yields Q (f a)) : Yields Q (c >>= f) := by
  intro s hs
  obtain ⟨hstate, hvalue⟩ := hc s hs
  have hrun : (c >>= f).run.run s =
      match c.run.run s with
      | (.ok a, s') => (f a).run.run s'
      | (.error fault, s') => (.error fault, s') := by
    simp only [ExceptT.run_bind, StateT.run_bind]
    cases hresult : c.run.run s with
    | mk result s' =>
        cases result with
        | ok a => rfl
        | error fault => rfl
  rw [hrun]
  cases hresult : c.run.run s with
  | mk result s' =>
      rw [hresult] at hstate hvalue
      cases result with
      | ok a => exact hf a (hvalue a rfl) s' hstate
      | error fault => exact ⟨hstate, fun a ha => by cases ha⟩

theorem yields_get : Yields IsSound (get : Computation State) := by
  intro s hs
  refine ⟨hs, fun a ha => ?_⟩
  cases ha
  exact hs

theorem yields_modify {f : State → State} (hf : ∀ s, IsSound s → IsSound (f s)) :
    Yields (fun _ => True) (modify f : Computation Unit) :=
  fun _ hs => ⟨hf _ hs, fun _ _ => trivial⟩

end Yields

theorem yields_head? :
    Yields (fun token => ∀ n, token = some (Token.number n) → fits n = true) head? := by
  refine yields_get.bind fun s hs => yields_pure fun n hn => ?_
  exact hs.tokens n (List.mem_of_head? hn)

theorem yields_pass : Yields (fun _ => True) pass :=
  yields_modify fun _ hs => ⟨fun n hn => hs.tokens n (List.mem_of_mem_drop hn), hs.assigned⟩

theorem yields_require (sign complaint : String) :
    Yields (fun _ => True) (require sign complaint) := by
  refine yields_head?.bind fun token _ => ?_
  split
  · split
    · exact yields_pass
    · exact yields_throw _
  · exact yields_throw _

theorem yields_passes? (sign : String) : Yields (fun _ => True) (passes? sign) := by
  refine yields_head?.bind fun token _ => ?_
  split
  · split
    · exact yields_pass.bind fun _ _ => yields_pure trivial
    · exact yields_pure trivial
  · exact yields_pure trivial

variable {p : Parameters}

theorem fits_valueOf (p : Parameters) (name : Octets) : Fits (valueOf p name) := by
  refine yields_get.bind fun s hs => ?_
  split
  · next n hn =>
      obtain ⟨before, after, hplace, -⟩ := List.lookup_eq_some_iff.1 hn
      have hassigned : (name, n) ∈ _ := hplace ▸ List.mem_append_right before List.mem_cons_self
      exact yields_pure (hs.assigned (name, n) hassigned)
  · dsimp only
    split
    · next n hn => exact yields_pure (fits_of_whole? hn)
    · exact yields_throw _

theorem fits_assign {n : Int} (hn : fits n = true) (name : Octets) : Fits (assign p name n) := by
  have hset : Yields (fun _ => True)
      (modify fun s => { s with assigned := (name, n) :: s.assigned } : Computation Unit) := by
    refine yields_modify fun s hs => ⟨hs.tokens, fun x hx => ?_⟩
    rcases List.mem_cons.1 hx with rfl | hx
    · exact hn
    · exact hs.assigned x hx
  unfold assign
  split
  · exact (yields_throw (P := fun _ => True) _).bind fun _ _ => hset.bind fun _ _ => yields_pure hn
  · exact hset.bind fun _ _ => yields_pure hn

/-! ### Parts of an expression -/

/-- **Parts whose values fit.** -/
structure Parts.AreSound (c : Parts) : Prop where
  assigning : ∀ idle, Fits (c.assigning idle)
  choosing : ∀ idle, Fits (c.choosing idle)
  operand : ∀ idle, Fits (c.operand idle)
  operations : ∀ idle bound a, fits a = true → Fits (c.operations idle bound a)
  all : ∀ idle, Fits (c.all idle)
  any : ∀ idle, Fits (c.any idle)

section Parts

variable {c : Parts} (hc : c.AreSound) (idle : Bool)

include hc

theorem fits_operand : Fits (operand p c idle) := by
  refine yields_head?.bind fun token htoken => ?_
  split
  · next n => exact yields_pass.bind fun _ _ => yields_pure (htoken n rfl)
  · refine yields_pass.bind fun _ _ => ?_
    split
    · exact yields_pure (by decide)
    · exact fits_valueOf p _
  · exact yields_pass.bind fun _ _ => hc.operand idle
  · exact yields_pass.bind fun _ _ => (hc.operand idle).bind fun n _ => yields_pure (fits_wrap _)
  · exact yields_pass.bind fun _ _ => (hc.operand idle).bind fun n _ => yields_pure (fits_ofBool _)
  · exact yields_pass.bind fun _ _ => (hc.operand idle).bind fun n _ => yields_pure (fits_wrap _)
  · exact yields_pass.bind fun _ _ => (hc.assigning idle).bind fun n hn =>
      (yields_require _ _).bind fun _ _ => yields_pure hn
  · exact yields_throw _

theorem fits_operations {bound : Nat} {a : Int} (ha : fits a = true) :
    Fits (operations c idle bound a) := by
  have hnext : Yields (fun _ => True) operationNext? := by
    refine yields_head?.bind fun token _ => ?_
    split
    · exact yields_pure trivial
    · exact yields_pure trivial
  have hvalue : ∀ op b, Fits (operations.liftExcept (apply op a b)) := by
    intro op b
    cases hresult : apply op a b with
    | ok n => exact yields_pure (fits_of_apply ha hresult)
    | error fault => exact yields_throw fault
  refine hnext.bind fun found _ => ?_
  split
  · exact yields_pure ha
  · next op tightness =>
      split
      · exact yields_pure ha
      · refine yields_pass.bind fun _ _ => (hc.operand idle).bind fun b hb => ?_
        refine (hc.operations idle tightness b hb).bind fun b hb => ?_
        dsimp only
        split
        · exact hc.operations idle bound b hb
        · exact (hvalue op b).bind fun n hn => hc.operations idle bound n hn

theorem fits_all : Fits (all c idle) := by
  refine (hc.operand idle).bind fun b hb => (hc.operations idle 0 b hb).bind fun a ha => ?_
  refine (yields_passes? "&&").bind fun passed _ => ?_
  split
  · exact (hc.all _).bind fun b _ => yields_pure (fits_ofBool _)
  · exact yields_pure ha

theorem fits_any : Fits (any c idle) := by
  refine (hc.all idle).bind fun a ha => (yields_passes? "||").bind fun passed _ => ?_
  split
  · exact (hc.any _).bind fun b _ => yields_pure (fits_ofBool _)
  · exact yields_pure ha

theorem fits_choosing : Fits (choosing c idle) := by
  refine (hc.any idle).bind fun condition hcondition => (yields_passes? "?").bind fun passed _ => ?_
  split
  · refine (hc.assigning _).bind fun a ha => (yields_require _ _).bind fun _ _ => ?_
    refine (hc.choosing _).bind fun b hb => yields_pure ?_
    split
    · exact ha
    · exact hb
  · exact yields_pure hcondition

theorem fits_assigning : Fits (assigning p c idle) := by
  have hnext : Yields (fun _ => True) assignmentNext? := by
    refine yields_get.bind fun s _ => ?_
    split
    · exact yields_pure trivial
    · exact yields_pure trivial
  refine hnext.bind fun found _ => ?_
  split
  · exact hc.choosing idle
  · refine yields_pass.bind fun _ _ => yields_pass.bind fun _ _ => ?_
    refine (hc.assigning idle).bind fun n hn => ?_
    split
    · exact yields_pure hn
    · split
      · exact fits_assign hn _
      · refine (fits_valueOf p _).bind fun value hvalue => ?_
        split
        · next result hresult => exact fits_assign (fits_of_apply hvalue hresult) _
        · exact yields_throw _

end Parts

/-- **Every part of an expression has a value that fits**, by induction on the number of steps. -/
theorem areSound_parts (p : Parameters) (fuel : Nat) : (parts p fuel).AreSound := by
  induction fuel with
  | zero =>
      exact ⟨fun _ => yields_throw _, fun _ => yields_throw _, fun _ => yields_throw _,
        fun _ _ _ _ => yields_throw _, fun _ => yields_throw _, fun _ => yields_throw _⟩
  | succ fuel ih =>
      exact ⟨fits_assigning ih, fits_choosing ih, fits_operand ih,
        fun idle _ _ ha => fits_operations ih idle ha, fits_all ih, fits_any ih⟩

/-- **The value of a text fits 64 bits, and so does everything that it assigns.** -/
theorem compute_fits (p : Parameters) (s : Octets) :
    (∀ n, (compute p s).1 = .ok n → fits n = true) ∧
      ∀ x ∈ (compute p s).2, fits x.2 = true := by
  have hwhole : Fits (whole p (8 * (tokens s).length + 16)) := by
    refine ((areSound_parts p _).assigning false).bind fun n hn => yields_head?.bind fun next _ => ?_
    split
    · exact yields_pure hn
    · exact yields_throw _
  obtain ⟨hstate, hvalue⟩ := hwhole ⟨tokens s, []⟩ ⟨fun n hn => fits_of_mem_tokensIn hn, by simp⟩
  exact ⟨hvalue, fun x hx => hstate.assigned x (List.mem_reverse.1 hx)⟩

/-- The one quotient that does not fit is a fault. -/
example : (compute ⟨fun _ => none, fun _ => false⟩ "(-9223372036854775807-1)/-1".toList).1 =
    .error .overflow := by rfl

end Arithmetic

end CommandBot.Shell
