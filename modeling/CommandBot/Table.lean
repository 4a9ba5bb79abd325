/-
**Tables of named values.**

A table maps names to values and keeps the order in which the names were first given.  The hashes
of the store, the store itself and the environment of the program are tables.

* `CommandBot.Table.get?` — the value under a name;
* `CommandBot.Table.set` — the table with one value replaced or added;
* `CommandBot.Table.erase` — the table without a name;
* `CommandBot.Table.get?_set` — **what a name holds after a write**;
* `CommandBot.Table.get?_setAll_of_last`, `CommandBot.Table.get?_setAll_of_forall_ne` — what it holds
  after several.
-/

set_option relaxedAutoImplicit false
set_option autoImplicit false

namespace CommandBot

/-- A table of values under names. -/
structure Table (α : Type) where
  /-- The names with their values, in the order in which they were added. -/
  entries : List (String × α)
deriving DecidableEq, Repr

namespace Table

variable {α : Type}

/-! ### Operations -/

/-- The table without entries. -/
def empty : Table α := ⟨[]⟩

/-- The first value under `name` in a list of entries. -/
def find? (name : String) : List (String × α) → Option α
  | [] => none
  | (n, v) :: rest => if n = name then some v else find? name rest

/-- The value under a name. -/
def get? (t : Table α) (name : String) : Option α := find? name t.entries

/-- A list of entries with the value of `name` replaced, or added at the end. -/
def put (name : String) (value : α) : List (String × α) → List (String × α)
  | [] => [(name, value)]
  | (n, v) :: rest => if n = name then (n, value) :: rest else (n, v) :: put name value rest

/-- The table with one value replaced or added. -/
def set (t : Table α) (name : String) (value : α) : Table α := ⟨put name value t.entries⟩

/-- The table with several values written in order. -/
def setAll (t : Table α) (pairs : List (String × α)) : Table α :=
  pairs.foldl (fun t pair => t.set pair.1 pair.2) t

/-- The table without a name. -/
def erase (t : Table α) (name : String) : Table α :=
  ⟨t.entries.filter fun entry => entry.1 ≠ name⟩

/-- Whether a name has a value. -/
def contains (t : Table α) (name : String) : Bool := (t.get? name).isSome

/-- A table that holds the given pairs; the last value of a name counts. -/
def ofList (pairs : List (String × α)) : Table α := empty.setAll pairs

/-! ### What a name holds -/

@[simp] theorem get?_empty (name : String) : (empty : Table α).get? name = none := rfl

theorem find?_put (name other : String) (value : α) (entries : List (String × α)) :
    find? other (put name value entries) =
      if name = other then some value else find? other entries := by
  induction entries with
  | nil => simp [put, find?]
  | cons entry rest ih =>
      obtain ⟨n, v⟩ := entry
      by_cases hn : n = name
      · subst hn
        by_cases ho : n = other <;> simp [put, find?, ho]
      · by_cases ho : n = other
        · subst ho
          simp [put, find?, hn, Ne.symm hn]
        · simp [put, find?, hn, ho, ih]

/-- **A write changes the name written and no other.** -/
theorem get?_set (t : Table α) (name other : String) (value : α) :
    (t.set name value).get? other = if name = other then some value else t.get? other :=
  find?_put name other value t.entries

@[simp] theorem get?_set_self (t : Table α) (name : String) (value : α) :
    (t.set name value).get? name = some value := by
  simp [get?_set]

theorem get?_set_of_ne {t : Table α} {name other : String} {value : α} (h : name ≠ other) :
    (t.set name value).get? other = t.get? other := by
  simp [get?_set, h]

@[simp] theorem setAll_nil (t : Table α) : t.setAll [] = t := rfl

@[simp] theorem setAll_cons (t : Table α) (pair : String × α) (pairs : List (String × α)) :
    t.setAll (pair :: pairs) = (t.set pair.1 pair.2).setAll pairs := rfl

theorem setAll_append (t : Table α) (first second : List (String × α)) :
    t.setAll (first ++ second) = (t.setAll first).setAll second := by
  simp [setAll, List.foldl_append]

/-- A name that is not among those written keeps its value. -/
theorem get?_setAll_of_forall_ne {t : Table α} {pairs : List (String × α)} {name : String}
    (h : ∀ pair ∈ pairs, pair.1 ≠ name) : (t.setAll pairs).get? name = t.get? name := by
  induction pairs generalizing t with
  | nil => rfl
  | cons pair pairs ih =>
      rw [setAll_cons, ih fun p hp => h p (List.mem_cons_of_mem _ hp),
        get?_set_of_ne (h pair List.mem_cons_self)]

/-- **Of several values written under a name the last one counts.** -/
theorem get?_setAll_of_last {t : Table α} {before after : List (String × α)} {name : String}
    {value : α} (h : ∀ pair ∈ after, pair.1 ≠ name) :
    (t.setAll (before ++ (name, value) :: after)).get? name = some value := by
  rw [setAll_append, setAll_cons, get?_setAll_of_forall_ne h, get?_set_self]

theorem find?_filter_ne (name other : String) (entries : List (String × α)) :
    find? other (entries.filter fun entry => entry.1 ≠ name) =
      if name = other then none else find? other entries := by
  induction entries with
  | nil => simp [find?]
  | cons entry rest ih =>
      obtain ⟨n, v⟩ := entry
      by_cases hn : n = name
      · subst hn
        by_cases ho : n = other
        · subst ho; simpa [find?] using ih
        · simpa [find?, ho] using ih
      · by_cases ho : n = other
        · subst ho
          simp [find?, hn, Ne.symm hn]
        · simpa [find?, hn, ho] using ih

/-- Erasing a name empties it and leaves all others. -/
theorem get?_erase (t : Table α) (name other : String) :
    (t.erase name).get? other = if name = other then none else t.get? other :=
  find?_filter_ne name other t.entries

end Table

end CommandBot
