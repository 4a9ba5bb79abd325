/-
**Cutting a text at a mark.**

Ways to take a text apart that the rest of the library shares: at the first mark, after a fixed
beginning, at a byte, after a number of characters, and after a byte order mark.

* `CommandBot.Text.splitAtFirst?` — the parts before and after the first mark;
* `CommandBot.Text.afterStart?` — what follows a given beginning;
* `CommandBot.Text.byteOffset?` — the byte at which a character begins;
* `CommandBot.Text.sliceTo?` — what stands before a byte, where no character is cut;
* `CommandBot.Text.truncate` — at most so many characters, with an ellipsis if some are lost;
* `CommandBot.Text.dropMark` — a text without the byte order mark that may begin it;
* `CommandBot.Text.intercalate_cons_eq_flatMap` — texts that are joined with a mark between them.
-/

set_option relaxedAutoImplicit false
set_option autoImplicit false

namespace CommandBot.Text

/-! ### At the first mark -/

/-- The parts before and after the first `mark`, or nothing if there is none. -/
def splitAtFirst? (mark : Char) : List Char → Option (List Char × List Char)
  | [] => none
  | c :: rest =>
      if c = mark then some ([], rest)
      else (splitAtFirst? mark rest).map fun parts => (c :: parts.1, parts.2)

/-- A split text is its two parts with the mark between them, and the first part lacks the
mark. -/
theorem splitAtFirst?_eq_some_iff {mark : Char} {s before after : List Char} :
    splitAtFirst? mark s = some (before, after) ↔
      s = before ++ mark :: after ∧ mark ∉ before := by
  induction s generalizing before with
  | nil => simp [splitAtFirst?]
  | cons c rest ih =>
      by_cases h : c = mark
      · subst h
        cases before with
        | nil => simp [splitAtFirst?, eq_comm]
        | cons d before =>
            simp only [splitAtFirst?, if_pos, Option.some.injEq, Prod.mk.injEq, List.cons_append,
              List.cons.injEq, List.mem_cons]
            constructor
            · intro hd; simp at hd
            · rintro ⟨⟨rfl, _⟩, hd⟩; exact absurd (Or.inl rfl) hd
      · cases before with
        | nil => simp [splitAtFirst?, h]
        | cons d before =>
            simp only [splitAtFirst?, h, if_false, Option.map_eq_some_iff, Prod.exists,
              Prod.mk.injEq, List.cons.injEq, List.cons_append, List.mem_cons]
            constructor
            · rintro ⟨a, b, hab, ⟨rfl, rfl⟩, rfl⟩
              obtain ⟨rfl, hm⟩ := ih.1 hab
              exact ⟨⟨rfl, rfl⟩, by simp [Ne.symm h, hm]⟩
            · rintro ⟨⟨rfl, rfl⟩, hm⟩
              exact ⟨before, after, ih.2 ⟨rfl, fun h' => hm (Or.inr h')⟩, ⟨rfl, rfl⟩, rfl⟩

/-- Only a text without the mark is not split. -/
theorem splitAtFirst?_eq_none_iff {mark : Char} {s : List Char} :
    splitAtFirst? mark s = none ↔ mark ∉ s := by
  induction s with
  | nil => simp [splitAtFirst?]
  | cons c rest ih =>
      by_cases h : c = mark
      · simp [splitAtFirst?, h]
      · simp [splitAtFirst?, h, Ne.symm h, ih]

/-! ### After a beginning -/

/-- What follows `start` in a text that begins with it. -/
def afterStart? : List Char → List Char → Option (List Char)
  | [], s => some s
  | _ :: _, [] => none
  | b :: start, c :: s => if b = c then afterStart? start s else none

@[simp] theorem afterStart?_nil (s : List Char) : afterStart? [] s = some s := by
  cases s <;> rfl

theorem afterStart?_eq_some_iff {start s rest : List Char} :
    afterStart? start s = some rest ↔ s = start ++ rest := by
  induction start generalizing s with
  | nil => simp
  | cons b start ih =>
      cases s with
      | nil => simp [afterStart?]
      | cons c s =>
          by_cases h : b = c
          · subst h; simp [afterStart?, ih]
          · simp [afterStart?, h, Ne.symm h]

/-! ### At a byte -/

/-- The byte at which a character begins in UTF-8, by the number of characters before it; or nothing
if the text has no more characters than that. -/
def byteOffset? : Nat → List Char → Option Nat
  | _, [] => none
  | 0, _ :: _ => some 0
  | n + 1, c :: rest => (byteOffset? n rest).map (c.utf8Size + ·)

/-- What stands before a byte, or nothing if a character would have to be cut there, or the text ends
before it. -/
def sliceTo? : Nat → List Char → Option (List Char)
  | 0, _ => some []
  | _ + 1, [] => none
  | n + 1, c :: rest =>
      if c.utf8Size ≤ n + 1 then (sliceTo? (n + 1 - c.utf8Size) rest).map (c :: ·) else none

theorem utf8ByteSize_cons (c : Char) (s : List Char) :
    (String.ofList (c :: s)).utf8ByteSize = c.utf8Size + (String.ofList s).utf8ByteSize := by
  rw [← List.singleton_append, String.ofList_append, String.utf8ByteSize_append,
    ← String.singleton_eq_ofList, String.utf8ByteSize_singleton]

/-- A character begins after the bytes of those before it. -/
theorem byteOffset?_eq_some_iff {n cut : Nat} {s : List Char} :
    byteOffset? n s = some cut ↔
      n < s.length ∧ cut = (String.ofList (s.take n)).utf8ByteSize := by
  induction s generalizing n cut with
  | nil => simp [byteOffset?]
  | cons c rest ih =>
      cases n with
      | zero => simp [byteOffset?, eq_comm]
      | succ n =>
          simp only [byteOffset?, Option.map_eq_some_iff, ih, List.length_cons,
            Nat.add_lt_add_iff_right, List.take_succ_cons, utf8ByteSize_cons]
          constructor
          · rintro ⟨_, ⟨hlt, rfl⟩, rfl⟩
            exact ⟨hlt, rfl⟩
          · rintro ⟨hlt, rfl⟩
            exact ⟨_, ⟨hlt, rfl⟩, rfl⟩

theorem byteOffset?_eq_none_iff {n : Nat} {s : List Char} :
    byteOffset? n s = none ↔ s.length ≤ n := by
  rw [Option.eq_none_iff_forall_ne_some]
  simp only [ne_eq, byteOffset?_eq_some_iff]
  constructor
  · intro h
    exact Nat.le_of_not_lt fun hlt => h _ ⟨hlt, rfl⟩
  · rintro h _ ⟨hlt, -⟩
    exact absurd hlt (Nat.not_lt_of_le h)

/-- A text without bytes is empty. -/
theorem utf8ByteSize_eq_zero_iff {s : List Char} :
    (String.ofList s).utf8ByteSize = 0 ↔ s = [] := by
  cases s with
  | nil => exact iff_of_true rfl rfl
  | cons c rest =>
      have hpos := c.utf8Size_pos
      rw [utf8ByteSize_cons]
      exact iff_of_false (by omega) (List.cons_ne_nil c rest)

/-- **What stands before a byte** is the beginning of the text that takes as many bytes. -/
theorem sliceTo?_eq_some_iff {cut : Nat} {s front : List Char} :
    sliceTo? cut s = some front ↔
      front <+: s ∧ (String.ofList front).utf8ByteSize = cut := by
  induction s generalizing cut front with
  | nil =>
      rw [List.prefix_nil]
      cases cut with
      | zero =>
          rw [utf8ByteSize_eq_zero_iff, and_self, sliceTo?, Option.some.injEq, eq_comm]
      | succ cut =>
          refine iff_of_false nofun ?_
          rintro ⟨rfl, hsize⟩
          cases hsize
  | cons c rest ih =>
      have hpos := c.utf8Size_pos
      cases front with
      | nil =>
          cases cut with
          | zero => exact iff_of_true rfl ⟨List.nil_prefix, rfl⟩
          | succ cut => simp [sliceTo?]
      | cons d front =>
          rw [List.cons_prefix_cons, utf8ByteSize_cons]
          cases cut with
          | zero =>
              refine iff_of_false nofun ?_
              rintro ⟨⟨rfl, -⟩, hsize⟩
              omega
          | succ cut =>
              rw [sliceTo?]
              split
              · next hle =>
                  simp only [Option.map_eq_some_iff, List.cons.injEq, ih]
                  constructor
                  · rintro ⟨_, ⟨hbegins, hsize⟩, rfl, rfl⟩
                    exact ⟨⟨rfl, hbegins⟩, by omega⟩
                  · rintro ⟨⟨rfl, hbegins⟩, hsize⟩
                    exact ⟨front, ⟨hbegins, by omega⟩, rfl, rfl⟩
              · next hlt =>
                  refine iff_of_false nofun ?_
                  rintro ⟨⟨rfl, -⟩, hsize⟩
                  omega

/-- A character is not cut. -/
example : sliceTo? 1 ['…', 'a'] = none ∧ sliceTo? 3 ['…', 'a'] = some ['…'] := by decide

/-- **Where a character begins the text can be cut**, after the characters before it. -/
theorem sliceTo?_of_byteOffset? {n cut : Nat} {s : List Char} (h : byteOffset? n s = some cut) :
    sliceTo? cut s = some (s.take n) := by
  obtain ⟨-, rfl⟩ := byteOffset?_eq_some_iff.1 h
  exact sliceTo?_eq_some_iff.2 ⟨List.take_prefix n s, rfl⟩

/-! ### After a number of characters -/

/-- At most `limit` characters of a text; if any are cut off, an ellipsis stands for them.  The cut
is at the byte where the first of them begins, so there always is something before it. -/
def truncate (limit : Nat) (s : List Char) : List Char :=
  match h : byteOffset? limit s with
  | none => s
  | some cut =>
      (sliceTo? cut s).get (Option.isSome_of_eq_some (sliceTo?_of_byteOffset? h)) ++ ['…']

/-- **A short text is left as it is.** -/
theorem truncate_of_length_le {limit : Nat} {s : List Char} (h : s.length ≤ limit) :
    truncate limit s = s := by
  have hnone := byteOffset?_eq_none_iff.2 h
  unfold truncate
  split
  · rfl
  · next hsome =>
      rw [hnone] at hsome
      cases hsome

/-- **Of a long one the first characters are left.** -/
theorem truncate_of_lt_length {limit : Nat} {s : List Char} (h : limit < s.length) :
    truncate limit s = s.take limit ++ ['…'] := by
  have hsome := byteOffset?_eq_some_iff.2 ⟨h, rfl⟩
  unfold truncate
  split
  · next hnone =>
      rw [hsome] at hnone
      cases hnone
  · next hcut => simp only [sliceTo?_of_byteOffset? hcut, Option.get_some]

/-! ### After a byte order mark -/

/-- The mark that some programs put at the start of a text. -/
def byteOrderMark : Char := '\ufeff'

/-- A text without a byte order mark at its start. -/
def dropMark : List Char → List Char
  | [] => []
  | c :: rest => if c = byteOrderMark then rest else c :: rest

/-! ### Joined texts -/

/-- Texts with a mark between them are the first text, and the mark before each other. -/
theorem intercalate_cons_eq_flatMap (mark first : List Char) (rest : List (List Char)) :
    mark.intercalate (first :: rest) = first ++ rest.flatMap (mark ++ ·) := by
  induction rest generalizing first with
  | nil => simp [List.intercalate_singleton]
  | cons next rest ih =>
      rw [List.intercalate_cons_cons, ih, List.flatMap_cons]
      simp only [List.append_assoc]

end CommandBot.Text
