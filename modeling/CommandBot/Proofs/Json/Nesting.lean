/-
**Quotes and brackets are balanced.**

A walk along a text keeps track of two things only: whether the next character stands in a string,
and how many brackets are open before it.  The text of a document leads from outside of all strings
back there, and closes as many brackets as it opens.

So a text of a document cannot begin with something visible and go on with the text of a bracketed
document.  If the second text began inside of a string, the inside and the outside of its own
strings would change places, and the walk would end inside of one; and if a bracket were open where
it begins, that bracket would still be open at the end.

Main definitions:

* `CommandBot.Json.walk` — the walk along a text;
* `CommandBot.Json.Balanced` — texts that leave everything as they found it;
* `CommandBot.Json.IsBracketed` — the documents that are written with brackets.

Main results:

* `CommandBot.Json.balanced_of_derives` — **every phrase of the grammar is balanced**;
* `CommandBot.Json.opposite_of_walk` — two walks along one text, one inside of a string and one
  outside, stay on opposite sides;
* `CommandBot.Json.gap_of_append_isText` — **only white space may stand before the text of a
  bracketed document.**
-/

import CommandBot.Proofs.Json.Reading

set_option relaxedAutoImplicit false
set_option autoImplicit false

namespace CommandBot.Json

open Grammar

/-! ### Walks -/

/-- Where a character stands: outside of all strings, in a string, or behind a backslash in one. -/
inductive Place where
  | outside | inside | escaped
deriving DecidableEq, Repr

/-- How many brackets are open after a character; no bracket is closed that is not open. -/
def bracket? (c : Char) (n : Nat) : Option Nat :=
  if c = '[' ∨ c = '\x7b' then some (n + 1)
  else if c = ']' ∨ c = '\x7d' then
    match n with
    | 0 => none
    | n + 1 => some n
  else some n

/-- One character further, with the number of brackets that are open.  No document has a backslash
outside of its strings. -/
def walkOne? : Place × Nat → Char → Option (Place × Nat)
  | (.outside, n), c =>
      if c = '"' then some (.inside, n)
      else if c = '\\' then none
      else (bracket? c n).map fun n => (.outside, n)
  | (.inside, n), c =>
      if c = '"' then some (.outside, n)
      else if c = '\\' then some (.escaped, n)
      else some (.inside, n)
  | (.escaped, n), _ => some (.inside, n)

/-- **The walk along a text.** -/
def walk : Place × Nat → List Char → Option (Place × Nat)
  | a, [] => some a
  | a, c :: s => (walkOne? a c).bind fun b => walk b s

variable {a b : Place × Nat} {p q : Place} {n k : Nat} {c : Char} {s t : List Char}

theorem walk_cons_of_walkOne? (h : walkOne? a c = some b) (s : List Char) :
    walk a (c :: s) = walk b s := by
  rw [walk, h, Option.bind_some]

theorem walk_quote (n : Nat) (s : List Char) :
    walk (.outside, n) ('"' :: s) = walk (.inside, n) s := rfl

theorem walk_escaped (n : Nat) (c : Char) (s : List Char) :
    walk (.escaped, n) (c :: s) = walk (.inside, n) s := rfl

theorem walk_append (a : Place × Nat) (s t : List Char) :
    walk a (s ++ t) = (walk a s).bind fun b => walk b t := by
  induction s generalizing a with
  | nil => rfl
  | cons c s ih =>
      rw [List.cons_append, walk, walk]
      cases walkOne? a c with
      | none => rfl
      | some b => exact ih b

/-! ### More brackets -/

theorem bracket?_succ (h : bracket? c n = some k) : bracket? c (n + 1) = some (k + 1) := by
  unfold bracket? at h ⊢
  split at h
  · next hopens =>
      cases h
      rw [if_pos hopens]
  · next hopens =>
      rw [if_neg hopens]
      split at h
      · next hcloses =>
          rw [if_pos hcloses]
          cases n with
          | zero => cases h
          | succ n =>
              cases h
              rfl
      · next hcloses =>
          cases h
          rw [if_neg hcloses]

theorem walkOne?_succ (h : walkOne? (p, n) c = some (q, k)) :
    walkOne? (p, n + 1) c = some (q, k + 1) := by
  cases p with
  | outside =>
      rw [walkOne?] at h ⊢
      split at h
      · next hquote =>
          cases h
          rw [if_pos hquote]
      · next hquote =>
          rw [if_neg hquote]
          split at h
          · cases h
          · next hbackslash =>
              obtain ⟨k', hbracket, he⟩ := Option.map_eq_some_iff.1 h
              cases he
              rw [if_neg hbackslash, bracket?_succ hbracket, Option.map_some]
  | inside =>
      rw [walkOne?] at h ⊢
      split at h
      · next hquote =>
          cases h
          rw [if_pos hquote]
      · next hquote =>
          rw [if_neg hquote]
          split at h
          · next hbackslash =>
              cases h
              rw [if_pos hbackslash]
          · next hbackslash =>
              cases h
              rw [if_neg hbackslash]
  | escaped =>
      cases h
      rfl

/-- **Brackets that are open around a text stay open** along it. -/
theorem walk_succ (h : walk (p, n) s = some (q, k)) : walk (p, n + 1) s = some (q, k + 1) := by
  induction s generalizing p n with
  | nil =>
      cases h
      rfl
  | cons c s ih =>
      rw [walk, Option.bind_eq_some_iff] at h
      obtain ⟨⟨p', n'⟩, hone, hrest⟩ := h
      rw [walk_cons_of_walkOne? (walkOne?_succ hone)]
      exact ih hrest

/-! ### Two sides -/

/-- One of the two is in a string and the other is not, and neither is behind a backslash. -/
inductive Opposite : Place → Place → Prop where
  | outside : Opposite .outside .inside
  | inside : Opposite .inside .outside

theorem Opposite.symm (h : Opposite p q) : Opposite q p := by
  cases h with
  | outside => exact .inside
  | inside => exact .outside

/-- Of the characters that can stand outside of a string, a quote makes the two change sides and any
other leaves them where they are.  A backslash is none of them. -/
theorem opposite_of_walkOne?_outside {p' q' : Place} {n' k' : Nat}
    (houtside : walkOne? (.outside, n) c = some (p', n'))
    (hinside : walkOne? (.inside, k) c = some (q', k')) : Opposite p' q' := by
  simp only [walkOne?] at houtside hinside
  split at houtside
  · next hquote =>
      rw [if_pos hquote] at hinside
      cases houtside
      cases hinside
      exact .inside
  · next hquote =>
      split at houtside
      · cases houtside
      · next hbackslash =>
          rw [if_neg hquote, if_neg hbackslash] at hinside
          obtain ⟨k', -, he⟩ := Option.map_eq_some_iff.1 houtside
          cases he
          cases hinside
          exact .outside

/-- **Two walks on opposite sides stay on opposite sides.** -/
theorem opposite_of_walk {p' q' : Place} {n' k' : Nat} (h : Opposite p q)
    (hp : walk (p, n) s = some (p', n')) (hq : walk (q, k) s = some (q', k')) :
    Opposite p' q' := by
  induction s generalizing p q n k with
  | nil =>
      cases hp
      cases hq
      exact h
  | cons c s ih =>
      rw [walk, Option.bind_eq_some_iff] at hp hq
      obtain ⟨⟨p₁, n₁⟩, hp, hrestp⟩ := hp
      obtain ⟨⟨q₁, k₁⟩, hq, hrestq⟩ := hq
      refine ih ?_ hrestp hrestq
      cases h with
      | outside => exact opposite_of_walkOne?_outside hp hq
      | inside => exact (opposite_of_walkOne?_outside hq hp).symm

/-! ### Balanced texts -/

/-- A text that leads from outside of all strings back there, and closes the brackets that it
opens. -/
def Balanced (s : List Char) : Prop := ∀ n, walk (.outside, n) s = some (.outside, n)

theorem Balanced.walk_append (h : Balanced s) (n : Nat) (t : List Char) :
    walk (.outside, n) (s ++ t) = walk (.outside, n) t := by
  rw [Json.walk_append, h n, Option.bind_some]

theorem Balanced.append (hs : Balanced s) (ht : Balanced t) : Balanced (s ++ t) := by
  intro n
  rw [hs.walk_append, ht n]

/-- A character that is no quote, no backslash and no bracket. -/
def isNeutral (c : Char) : Bool :=
  c ≠ '"' && c ≠ '\\' && c ≠ '[' && c ≠ '\x7b' && c ≠ ']' && c ≠ '\x7d'

theorem Balanced.cons (hc : isNeutral c = true) (h : Balanced s) : Balanced (c :: s) := by
  intro n
  simp only [isNeutral, Bool.and_eq_true, decide_eq_true_eq] at hc
  have hone : walkOne? (.outside, n) c = some (.outside, n) := by simp [walkOne?, bracket?, hc]
  rw [walk_cons_of_walkOne? hone, h n]

theorem balanced_of_neutral (h : ∀ c ∈ s, isNeutral c = true) : Balanced s := by
  induction s with
  | nil => exact fun _ => rfl
  | cons c s ih =>
      have hrest : ∀ d ∈ s, isNeutral d = true := fun d hd => h d (List.mem_cons_of_mem c hd)
      exact (ih hrest).cons (h c List.mem_cons_self)

/-- Brackets around a balanced text. -/
theorem Balanced.bracketed (h : Balanced s) {first last : Char}
    (hopens : ∀ n, walkOne? (.outside, n) first = some (.outside, n + 1))
    (hcloses : ∀ n, walkOne? (.outside, n + 1) last = some (.outside, n)) :
    Balanced (first :: (s ++ [last])) := by
  intro n
  rw [walk_cons_of_walkOne? (hopens n), h.walk_append, walk_cons_of_walkOne? (hcloses n)]
  rfl

/-- A bracket that is open before a balanced text is open all along it. -/
theorem Balanced.walk_ne (h : Balanced s) (hpart : t <+: s) :
    walk (.outside, 1) t ≠ some (.outside, 0) := by
  obtain ⟨rest, rfl⟩ := hpart
  have hwhole := h 0
  rw [Json.walk_append, Option.bind_eq_some_iff] at hwhole
  obtain ⟨⟨q, k⟩, hwalk, -⟩ := hwhole
  rw [walk_succ hwalk]
  rintro ⟨⟩

/-! ### Phrases -/

theorem balanced_of_gap (h : Gap s) : Balanced s := by
  refine balanced_of_neutral fun c hc => ?_
  rcases h c hc with rfl | rfl | rfl | rfl <;> decide

/-- What numbers are made of is neutral. -/
theorem isNeutral_of_isDigit (h : c.isDigit = true) : isNeutral c = true := by
  simp only [isNeutral, Bool.and_eq_true, decide_eq_true_eq]
  refine ⟨⟨⟨⟨⟨?_, ?_⟩, ?_⟩, ?_⟩, ?_⟩, ?_⟩ <;> rintro rfl <;> exact absurd h (by decide)

theorem balanced_of_digits (h : Digits s) : Balanced s :=
  balanced_of_neutral fun c hc => isNeutral_of_isDigit (h.2 c hc)

theorem balanced_of_whole (h : Whole s) : Balanced s := by
  cases h with
  | zero => exact balanced_of_neutral (by simp [isNeutral])
  | digits _ digits => exact balanced_of_digits digits

theorem balanced_of_fraction (h : Fraction s) : Balanced s := by
  cases h with
  | absent => exact fun _ => rfl
  | digits digits => exact (balanced_of_digits digits).cons (by decide)

theorem balanced_of_exponent (h : Exponent s) : Balanced s := by
  have hmark : ∀ c, c = 'e' ∨ c = 'E' → isNeutral c = true := by
    rintro c (rfl | rfl) <;> decide
  cases h with
  | absent => exact fun _ => rfl
  | unsigned mark digits => exact (balanced_of_digits digits).cons (hmark _ mark)
  | signed mark sign digits =>
      rcases sign with rfl | rfl
      · exact ((balanced_of_digits digits).cons (by decide)).cons (hmark _ mark)
      · exact ((balanced_of_digits digits).cons (by decide)).cons (hmark _ mark)

theorem balanced_of_numeral (h : Numeral s) : Balanced s := by
  have hmagnitude : ∀ {s}, Magnitude s → Balanced s := by
    rintro s ⟨hwhole, hfraction, hexponent⟩
    exact ((balanced_of_whole hwhole).append (balanced_of_fraction hfraction)).append
      (balanced_of_exponent hexponent)
  cases h with
  | positive magnitude => exact hmagnitude magnitude
  | negative magnitude => exact (hmagnitude magnitude).cons (by decide)

/-- A character in a string that is no quote and no backslash. -/
theorem walk_inside_cons (hquote : c ≠ '"') (hbackslash : c ≠ '\\') (n : Nat) (s : List Char) :
    walk (.inside, n) (c :: s) = walk (.inside, n) s := by
  refine walk_cons_of_walkOne? ?_ s
  rw [walkOne?, if_neg hquote, if_neg hbackslash]

theorem Grammar.HexDigit.ne {d : Nat} (h : HexDigit c d) : c ≠ '"' ∧ c ≠ '\\' := by
  constructor
  · rintro rfl
    simp [HexDigit] at h
    omega
  · rintro rfl
    simp [HexDigit] at h
    omega

theorem walk_written {item : Item} (h : Written item s) (n : Nat) (t : List Char) :
    walk (.inside, n) (s ++ t) = walk (.inside, n) t := by
  cases h with
  | plain visible quote backslash => exact walk_inside_cons quote backslash n t
  | short escape => rfl
  | unit h₃ h₂ h₁ h₀ =>
      have hescape : ∀ s, walk (.inside, n) ('\\' :: 'u' :: s) = walk (.inside, n) s := fun _ => rfl
      simp only [List.cons_append, List.nil_append, hescape]
      rw [walk_inside_cons h₃.ne.1 h₃.ne.2, walk_inside_cons h₂.ne.1 h₂.ne.2,
        walk_inside_cons h₁.ne.1 h₁.ne.2, walk_inside_cons h₀.ne.1 h₀.ne.2]

theorem walk_quoted {items : List Item} (h : Quoted items s) (n : Nat) (t : List Char) :
    walk (.inside, n) (s ++ t) = walk (.inside, n) t := by
  induction h with
  | nil => rfl
  | cons first _ ih => rw [List.append_assoc, walk_written first, ih]

theorem balanced_of_quoted {items : List Item} (h : Quoted items s) :
    Balanced ('"' :: (s ++ ['"'])) := by
  intro n
  rw [walk_quote, walk_quoted h]
  rfl

/-- **Every phrase of the grammar is balanced.** -/
theorem balanced_of_derives {phrase : Phrase} (h : Derives phrase s) : Balanced s := by
  induction h with
  | null => exact balanced_of_neutral (by simp [isNeutral])
  | true => exact balanced_of_neutral (by simp [isNeutral])
  | false => exact balanced_of_neutral (by simp [isNeutral])
  | number numeral => exact balanced_of_numeral numeral
  | string quoted => exact balanced_of_quoted quoted
  | emptyArray gap => exact (balanced_of_gap gap).bracketed (fun _ => rfl) fun _ => rfl
  | array _ ih => exact ih.bracketed (fun _ => rfl) fun _ => rfl
  | emptyObject gap => exact (balanced_of_gap gap).bracketed (fun _ => rfl) fun _ => rfl
  | object _ ih => exact ih.bracketed (fun _ => rfl) fun _ => rfl
  | element before _ after ih =>
      exact ((balanced_of_gap before).append ih).append (balanced_of_gap after)
  | lastElement _ ih => exact ih
  | moreElements _ _ ih ihs => exact ih.append (ihs.cons (by decide))
  | @member name v w m w' s before quoted after _ ih =>
      have hname := balanced_of_quoted quoted
      have hvalue : Balanced (w' ++ ':' :: s) :=
        (balanced_of_gap after).append (ih.cons (by decide))
      simpa using (balanced_of_gap before).append (hname.append hvalue)
  | lastMember _ ih => exact ih
  | moreMembers _ _ ih ihs => exact ih.append (ihs.cons (by decide))

/-! ### Bracketed documents -/

/-- A document that is written with brackets around it. -/
def IsBracketed : Json → Prop
  | .array _ | .object _ => True
  | _ => False

variable {d d' : Json}

/-- A bracket, something balanced and a bracket. -/
theorem IsBracketed.exists_inside (hd : IsBracketed d) (h : Derives (.value d) s) :
    ∃ first inside last, s = first :: (inside ++ [last]) ∧ Balanced inside ∧
      (first = '[' ∨ first = '\x7b') := by
  cases h with
  | null | true | false | number _ | string _ => cases hd
  | emptyArray gap => exact ⟨_, _, _, rfl, balanced_of_gap gap, .inl rfl⟩
  | array inside => exact ⟨_, _, _, rfl, balanced_of_derives inside, .inl rfl⟩
  | emptyObject gap => exact ⟨_, _, _, rfl, balanced_of_gap gap, .inr rfl⟩
  | object inside => exact ⟨_, _, _, rfl, balanced_of_derives inside, .inr rfl⟩

theorem walkOne?_of_opens (h : c = '[' ∨ c = '\x7b') (n : Nat) :
    walkOne? (.outside, n) c = some (.outside, n + 1) := by
  rcases h with rfl | rfl <;> rfl

/-- The text of a bracketed document begins outside of all strings and stays there. -/
theorem IsBracketed.exists_first (hd : IsBracketed d) (h : IsText d s) :
    ∃ c rest n, s = c :: rest ∧ walkOne? (.outside, 0) c = some (.outside, n) := by
  cases h with
  | @element _ before p after hbefore hvalue _ =>
      obtain ⟨first, inside, last, rfl, -, hopens⟩ := hd.exists_inside hvalue
      cases before with
      | nil => exact ⟨first, _, 1, rfl, walkOne?_of_opens hopens 0⟩
      | cons c before =>
          refine ⟨c, _, 0, rfl, ?_⟩
          rcases hbefore c List.mem_cons_self with rfl | rfl | rfl | rfl <;> rfl

/-- **What stands before the text of a bracketed document** has closed all of its strings and
brackets, if the whole is the text of a document. -/
theorem IsBracketed.walk_before (hd : IsBracketed d) (h : IsText d s)
    (hlonger : IsText d' (t ++ s)) : walk (.outside, 0) t = some (.outside, 0) := by
  have hwhole := balanced_of_derives hlonger 0
  rw [walk_append, Option.bind_eq_some_iff] at hwhole
  obtain ⟨⟨p, n⟩, hbefore, hrest⟩ := hwhole
  have hbalanced : Balanced s := balanced_of_derives h
  cases p with
  | outside =>
      rw [hbalanced n] at hrest
      cases hrest
      exact hbefore
  | inside => cases opposite_of_walk .outside (hbalanced 0) hrest
  | escaped =>
      obtain ⟨c, rest, k, rfl, hone⟩ := hd.exists_first h
      have houtside := hbalanced 0
      rw [walk_cons_of_walkOne? hone] at houtside
      rw [walk_escaped] at hrest
      cases opposite_of_walk .outside houtside hrest

/-- **A beginning of the text of a bracketed document leaves a bracket open**, unless it is white
space or all that is visible. -/
theorem IsBracketed.gap_of_walk (hd : IsBracketed d) (h : IsText d (t ++ s)) (hs : ¬ Gap s)
    (hwalk : walk (.outside, 0) t = some (.outside, 0)) : Gap t := by
  generalize htext : t ++ s = text at h
  cases h with
  | @element _ before p after hbefore hvalue hafter =>
      obtain ⟨first, inside, last, rfl, hinside, hopens⟩ := hd.exists_inside hvalue
      rw [List.append_assoc] at htext
      rcases List.append_eq_append_iff.1 htext with ⟨rest, rfl, -⟩ | ⟨rest, rfl, hrest⟩
      · exact fun c hc => hbefore c (List.mem_append_left rest hc)
      · cases rest with
        | nil => simpa using hbefore
        | cons c rest =>
            rw [List.cons_append, List.cons_append, List.cons.injEq, List.append_assoc] at hrest
            obtain ⟨rfl, hrest⟩ := hrest
            rw [(balanced_of_gap hbefore).walk_append,
              walk_cons_of_walkOne? (walkOne?_of_opens hopens 0)] at hwalk
            rcases List.append_eq_append_iff.1 hrest with ⟨more, rfl, hmore⟩ | ⟨more, rfl, -⟩
            · cases more with
              | nil =>
                  rw [List.append_nil] at hwalk
                  exact absurd hwalk (hinside.walk_ne List.prefix_rfl)
              | cons c more =>
                  -- Behind the last bracket there is white space only.
                  obtain ⟨-, rfl⟩ := List.cons.inj hmore
                  exact absurd (fun c hc => hafter c (List.mem_append_right more hc)) hs
            · exact absurd hwalk (hinside.walk_ne (List.prefix_append rest more))

/-- **Only white space may stand before the text of a bracketed document**, if a bracketed document
is to be read. -/
theorem gap_of_append_isText (hd : IsBracketed d) (hd' : IsBracketed d') (h : IsText d s)
    (hlonger : IsText d' (t ++ s)) : Gap t := by
  refine hd'.gap_of_walk hlonger ?_ (hd.walk_before h hlonger)
  intro hgap
  cases h with
  | element _ hvalue _ =>
      obtain ⟨first, inside, last, rfl, -, hopens⟩ := hd.exists_inside hvalue
      have hfirst := hgap first (by simp)
      rcases hopens with rfl | rfl <;> exact absurd hfirst (by decide)

end CommandBot.Json
