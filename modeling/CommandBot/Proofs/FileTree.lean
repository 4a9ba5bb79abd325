/-
**Where a path leads.**

A path is followed within a bounded number of steps, since links can lead in circles.  What it leads
to does not depend on the bound: it is where the parts of the path lead one after another, a link
being replaced by the parts of what it points to.  So a file that was put at a path is found there,
with its bytes, and nothing else that lay anywhere is lost.

Main definitions:

* `CommandBot.FileTree.Leads` — where the parts of a path lead, and in how many steps.

Main results:

* `CommandBot.FileTree.follow_eq_ok_iff` — **a path is followed to where its parts lead**, if the
  steps do not exceed the bound;
* `CommandBot.FileTree.Leads.unique` — and that is one place;
* `CommandBot.FileTree.foldl_parts_join` — a joined path goes on from where the first one ends;
* `CommandBot.FileTree.read?_add` — **a file that was put at a path is read there**;
* `CommandBot.FileTree.entry?_add_of_ne` — everything else stays.
-/

import CommandBot.FileTree
import Mathlib.Data.List.Basic

set_option relaxedAutoImplicit false
set_option autoImplicit false

namespace CommandBot.FileTree

variable {t : FileTree} {throughLast : Bool} {p q : Place} {part : Octets}
  {names rest : List Octets}

/-! ### Following a path -/

/-- **Where the parts of a path lead** from a place, and in how many steps.  Every part must be
looked for in a directory.  A link leads on from where it points to; the last part may be a link
itself if it need not be followed. -/
inductive Leads (t : FileTree) (throughLast : Bool) : Nat → Place → List Octets → Place → Prop where
  | here (p : Place) : Leads t throughLast 0 p [] p
  | step {n : Nat} {p q : Place} {part : Octets} {rest : List Octets}
      (directory : t.isDirectory p = true) (short : part.length ≤ nameLimit)
      (unlinked : ∀ target, t.entry? (stepTo p part) ≠ some (.link target))
      (h : Leads t throughLast n (stepTo p part) rest q) :
      Leads t throughLast (n + 1) p (part :: rest) q
  | link {n : Nat} {p q : Place} {part target : Octets} {rest : List Octets}
      (directory : t.isDirectory p = true) (short : part.length ≤ nameLimit)
      (linked : t.entry? (stepTo p part) = some (.link target))
      (through : rest ≠ [] ∨ throughLast = true)
      (h : Leads t throughLast n (origin p target) (parts target ++ rest) q) :
      Leads t throughLast (n + 1) p (part :: rest) q
  | last {p : Place} {part target : Octets} (directory : t.isDirectory p = true)
      (short : part.length ≤ nameLimit) (linked : t.entry? (stepTo p part) = some (.link target))
      (stay : throughLast = false) : Leads t throughLast 0 p [part] (stepTo p part)

/-- How one more part is followed from a directory. -/
theorem follow_cons (fuel : Nat) (hdirectory : t.isDirectory p = true)
    (hshort : part.length ≤ nameLimit) :
    t.follow throughLast (fuel + 1) p (part :: rest) =
      match t.entry? (stepTo p part) with
      | some (.link target) =>
          if rest.isEmpty && !throughLast then .ok (stepTo p part)
          else t.follow throughLast fuel (origin p target) (parts target ++ rest)
      | _ => t.follow throughLast fuel (stepTo p part) rest := by
  have hfits : ¬ nameLimit < part.length := Nat.not_lt.2 hshort
  cases hentry : t.entry? (stepTo p part) with
  | none => simp [follow, hdirectory, hfits, hentry]
  | some e => cases e <;> simp [follow, hdirectory, hfits, hentry]

theorem Leads.follow {n fuel : Nat} (h : Leads t throughLast n p names q) (hn : n < fuel) :
    t.follow throughLast fuel p names = .ok q := by
  induction h generalizing fuel with
  | here p =>
      obtain ⟨fuel, rfl⟩ := Nat.exists_eq_succ_of_ne_zero (Nat.ne_of_gt hn)
      rfl
  | step directory short unlinked _ ih =>
      obtain ⟨fuel, rfl⟩ := Nat.exists_eq_succ_of_ne_zero (Nat.ne_of_gt (Nat.zero_lt_of_lt hn))
      rw [follow_cons fuel directory short]
      split
      · next target hlink => exact absurd hlink (unlinked target)
      · exact ih (Nat.lt_of_succ_lt_succ hn)
  | link directory short linked through _ ih =>
      obtain ⟨fuel, rfl⟩ := Nat.exists_eq_succ_of_ne_zero (Nat.ne_of_gt (Nat.zero_lt_of_lt hn))
      rw [follow_cons fuel directory short, linked]
      dsimp only
      rw [if_neg, ih (Nat.lt_of_succ_lt_succ hn)]
      rcases through with hrest | hthrough
      · simp [hrest]
      · simp [hthrough]
  | last directory short linked stay =>
      obtain ⟨fuel, rfl⟩ := Nat.exists_eq_succ_of_ne_zero (Nat.ne_of_gt hn)
      rw [follow_cons fuel directory short, linked, stay]
      rfl

theorem exists_leads_of_follow {fuel : Nat} (h : t.follow throughLast fuel p names = .ok q) :
    ∃ n < fuel, Leads t throughLast n p names q := by
  induction fuel generalizing p names with
  | zero => cases h
  | succ fuel ih =>
      cases names with
      | nil =>
          cases h
          exact ⟨0, fuel.succ_pos, .here _⟩
      | cons part rest =>
          by_cases hdirectory : t.isDirectory p = true
          · by_cases hshort : part.length ≤ nameLimit
            · rw [follow_cons fuel hdirectory hshort] at h
              split at h
              · next target hlink =>
                  split at h
                  · next hlast =>
                      cases h
                      simp only [Bool.and_eq_true, List.isEmpty_iff, Bool.not_eq_true'] at hlast
                      obtain ⟨rfl, hstay⟩ := hlast
                      exact ⟨0, fuel.succ_pos, .last hdirectory hshort hlink hstay⟩
                  · next hthrough =>
                      obtain ⟨n, hn, hleads⟩ := ih h
                      refine ⟨n + 1, Nat.succ_lt_succ hn, .link hdirectory hshort hlink ?_ hleads⟩
                      simp only [Bool.and_eq_true, List.isEmpty_iff, Bool.not_eq_true',
                        not_and] at hthrough
                      by_cases hrest : rest = []
                      · exact .inr (by simpa using hthrough hrest)
                      · exact .inl hrest
              · next hnone =>
                  obtain ⟨n, hn, hleads⟩ := ih h
                  exact ⟨n + 1, Nat.succ_lt_succ hn, .step hdirectory hshort hnone hleads⟩
            · rw [follow, hdirectory, if_neg (by simp), if_pos (by omega)] at h
              cases h
          · rw [follow, if_pos (by simpa using hdirectory)] at h
            cases h

/-- **A path is followed to where its parts lead**, if the steps do not exceed the bound. -/
theorem follow_eq_ok_iff {fuel : Nat} :
    t.follow throughLast fuel p names = .ok q ↔ ∃ n < fuel, Leads t throughLast n p names q := by
  constructor
  · exact exists_leads_of_follow
  · rintro ⟨n, hn, h⟩
    exact h.follow hn

/-- **The parts of a path lead to one place**, however many steps are allowed. -/
theorem Leads.unique {n m : Nat} {q' : Place} (h : Leads t throughLast n p names q)
    (h' : Leads t throughLast m p names q') : q = q' := by
  have hq := h.follow (Nat.lt_succ_of_le (Nat.le_max_left n m))
  rw [h'.follow (Nat.lt_succ_of_le (Nat.le_max_right n m))] at hq
  exact (Except.ok.inj hq).symm

/-! ### Places -/

/-- No part but two dots leads back. -/
theorem prefix_stepTo (h : part ≠ ['.', '.']) : p <+: stepTo p part := by
  rw [stepTo, if_neg h]
  split
  · exact List.prefix_refl p
  · exact List.prefix_append p [part]

theorem prefix_foldl_stepTo (h : ['.', '.'] ∉ names) : p <+: names.foldl stepTo p := by
  induction names generalizing p with
  | nil => exact List.prefix_refl p
  | cons part rest ih =>
      rw [List.mem_cons, not_or] at h
      exact (prefix_stepTo (Ne.symm h.1)).trans (ih h.2)

/-! ### Joined paths -/

theorem parts_append_slash (s u : Octets) : parts (s ++ '/' :: u) = parts s ++ parts u :=
  List.splitOn_append_cons_self s u

/-- **A joined path goes on from where the first one ends.** -/
theorem foldl_parts_join (directory path : String) (h : isAbsolute path.toList = false)
    (p : Place) :
    (parts (Octets.ofText (join directory path).toList)).foldl stepTo p =
      (parts (Octets.ofText path.toList)).foldl stepTo
        ((parts (Octets.ofText directory.toList)).foldl stepTo p) := by
  have hslash : Octets.ofText ['/'] = ['/'] := by decide
  rw [join, h, if_neg (by simp)]
  cases hlast : directory.toList.getLast? with
  | none =>
      have hempty : directory.toList = [] := List.getLast?_eq_none_iff.1 hlast
      rw [hempty]
      rfl
  | some last =>
      dsimp only
      obtain ⟨before, hdirectory⟩ := List.getLast?_eq_some_iff.1 hlast
      split
      · next hmark =>
          rw [hmark] at hdirectory
          have hfirst : parts (Octets.ofText directory.toList) =
              parts (Octets.ofText before) ++ [[]] := by
            rw [hdirectory, Octets.ofText_append, hslash, parts_append_slash]
            rfl
          rw [String.toList_append, hfirst, hdirectory, List.append_assoc, Octets.ofText_append,
            Octets.ofText_append, hslash, List.singleton_append, parts_append_slash, List.foldl_append,
            List.foldl_append]
          rfl
      · rw [String.toList_append, String.toList_append, List.append_assoc, Octets.ofText_append,
          Octets.ofText_append, show "/".toList = ['/'] from by decide, hslash, List.singleton_append,
          parts_append_slash, List.foldl_append]

/-! ### Entries -/

theorem lookup_filter_ne {α β : Type} [BEq α] [LawfulBEq α] {a b : α} (h : a ≠ b)
    (entries : List (α × β)) :
    (entries.filter fun e => e.1 != b).lookup a = entries.lookup a := by
  induction entries with
  | nil => rfl
  | cons e rest ih =>
      by_cases hb : e.1 = b
      · rw [List.filter_cons_of_neg (by simpa using hb), ih, List.lookup_cons]
        rw [beq_false_of_ne (hb ▸ h)]
      · rw [List.filter_cons_of_pos (by simpa using hb), List.lookup_cons, List.lookup_cons, ih]

theorem entry?_put_self (t : FileTree) (p : Place) (e : Entry) : entry? (t.put p e) p = some e := by
  simp [ entry?, item?, put]

theorem entry?_put_of_ne (t : FileTree) (e : Entry) (h : q ≠ p) :
    entry? (t.put p e) q = t.entry? q := by
  rw [ entry?, item?, put, List.lookup_cons, beq_false_of_ne h]
  dsimp only
  rw [lookup_filter_ne h]
  rfl

@[simp] theorem here_put (t : FileTree) (p : Place) (e : Entry) : (t.put p e).here = t.here := rfl

/-- Something lies at a place that has an entry. -/
theorem mem_of_entry? {e : Entry} (h : t.entry? p = some e) : ∃ item, (p, item) ∈ t.entries := by
  obtain ⟨item, hitem, -⟩ := Option.map_eq_some_iff.1 h
  obtain ⟨before, after, hplace, -⟩ := List.lookup_eq_some_iff.1 hitem
  exact ⟨item, hplace ▸ List.mem_append_right before List.mem_cons_self⟩

/-- What lies above an entry is a directory. -/
theorem isDirectory_of_below {e : Entry} (h : t.entry? q = some e) (habove : p <+: q)
    (hne : p ≠ q) : t.isDirectory p = true := by
  obtain ⟨item, hmem⟩ := mem_of_entry? h
  have hany : (t.entries.any fun e => p.isPrefixOf e.1 && e.1 != p) = true := by
    rw [List.any_eq_true]
    exact ⟨(q, item), hmem, by simpa using ⟨habove, Ne.symm hne⟩⟩
  rw [isDirectory, hany, Bool.or_true]

/-! ### Putting a file at a path -/

/-- A directory that is made changes nothing that is there. -/
theorem entry?_addDirectory (t : FileTree) (p q : Place) :
    entry? (t.addDirectory p) q = t.entry? q ∨
      t.entry? q = none ∧ entry? (t.addDirectory p) q = some .directory := by
  rw [addDirectory]
  split
  · exact .inl rfl
  · next hfree =>
      by_cases heq : q = p
      · subst heq
        refine .inr ⟨?_, entry?_put_self t q .directory⟩
        rw [contains, Bool.or_eq_true, not_or, Option.not_isSome_iff_eq_none] at hfree
        rw [ entry?, hfree.2, Option.map_none]
      · exact .inl (entry?_put_of_ne t .directory heq)

theorem entry?_foldl_addDirectory (passed : List Place) (q : Place) :
    entry? (passed.foldl addDirectory t) q = t.entry? q ∨
      t.entry? q = none ∧ entry? (passed.foldl addDirectory t) q = some .directory := by
  induction passed generalizing t with
  | nil => exact .inl rfl
  | cons p rest ih =>
      rw [List.foldl_cons]
      rcases ih (t := t.addDirectory p) with hrest | ⟨hnone, hmade⟩
      · rw [hrest]
        exact entry?_addDirectory t p q
      · rcases entry?_addDirectory t p q with hsame | ⟨-, hdirectory⟩
        · exact .inr ⟨hsame ▸ hnone, hmade⟩
        · rw [hdirectory] at hnone
          cases hnone

theorem here_foldl_addDirectory (passed : List Place) (t : FileTree) :
    (passed.foldl addDirectory t).here = t.here := by
  induction passed generalizing t with
  | nil => rfl
  | cons p rest ih =>
      rw [List.foldl_cons, ih, addDirectory]
      split
      · rfl
      · rfl

/-- The place that a path names, where there are no links. -/
def named (t : FileTree) (path : String) : Place :=
  (parts (Octets.ofText path.toList)).foldl stepTo (origin t.here (Octets.ofText path.toList))

/-- The places on the way to it. -/
def passed (t : FileTree) (path : String) : List Place :=
  (List.range (parts (Octets.ofText path.toList)).length).map fun n =>
    ((parts (Octets.ofText path.toList)).take n).foldl stepTo
      (origin t.here (Octets.ofText path.toList))

theorem add_eq (t : FileTree) (path : String) (e : Entry) :
    t.add path e = ((t.passed path).foldl addDirectory t).put (t.named path) e := rfl

theorem entry?_add_self (t : FileTree) (path : String) (e : Entry) :
    entry? (t.add path e) (t.named path) = some e := by
  rw [add_eq, entry?_put_self]

/-- **Everything else stays**; at most there are more directories. -/
theorem entry?_add_of_ne (path : String) (e : Entry) (h : q ≠ t.named path) :
    entry? (t.add path e) q = t.entry? q ∨
      t.entry? q = none ∧ entry? (t.add path e) q = some .directory := by
  rw [add_eq, entry?_put_of_ne _ e h]
  exact entry?_foldl_addDirectory _ q

/-- Parts without links lead down to an entry. -/
theorem leads_of_unlinked {e : Entry} {last : Octets} (hnames : ['.', '.'] ∉ names)
    (hshort : ∀ part ∈ names, part.length ≤ nameLimit) (hlast : last.length ≤ nameLimit)
    (hplain : last ≠ [] ∧ last ≠ ['.'] ∧ last ≠ ['.', '.'])
    (hentry : t.entry? ((names ++ [last]).foldl stepTo p) = some e)
    (hunlinked : ∀ q, q <+: (names ++ [last]).foldl stepTo p →
      ∀ target, t.entry? q ≠ some (.link target)) :
    Leads t throughLast (names.length + 1) p (names ++ [last])
      ((names ++ [last]).foldl stepTo p) := by
  obtain ⟨hsome, hdot, hdots⟩ := hplain
  have hstep : ∀ p, stepTo p last = p ++ [last] := by
    intro p
    rw [stepTo, if_neg (by simp [hsome, hdot]), if_neg hdots]
  induction names generalizing p with
  | nil =>
      rw [List.nil_append, List.foldl_cons, List.foldl_nil] at hentry hunlinked ⊢
      have hdirectory : t.isDirectory p = true := by
        rw [hstep] at hentry
        exact isDirectory_of_below hentry (List.prefix_append p [last]) (by simp)
      exact .step hdirectory hlast (hunlinked _ (List.prefix_refl _)) (.here _)
  | cons part rest ih =>
      rw [List.mem_cons, not_or] at hnames
      rw [List.cons_append, List.foldl_cons] at hentry hunlinked ⊢
      have hbelow : stepTo p part <+: rest.foldl stepTo (stepTo p part) :=
        prefix_foldl_stepTo hnames.2
      have hend : (rest ++ [last]).foldl stepTo (stepTo p part) =
          rest.foldl stepTo (stepTo p part) ++ [last] := by
        rw [List.foldl_append, List.foldl_cons, List.foldl_nil, hstep]
      have hwhole : rest.foldl stepTo (stepTo p part) <+:
          (rest ++ [last]).foldl stepTo (stepTo p part) := by
        rw [hend]
        exact List.prefix_append _ _
      have habove : p <+: rest.foldl stepTo (stepTo p part) :=
        (prefix_stepTo (Ne.symm hnames.1)).trans hbelow
      have hdirectory : t.isDirectory p = true := by
        refine isDirectory_of_below hentry (habove.trans hwhole) fun heq => ?_
        have hshorter := habove.length_le
        have hlonger := congrArg List.length (heq.trans hend)
        rw [List.length_append, List.length_singleton] at hlonger
        omega
      exact .step hdirectory (hshort part List.mem_cons_self) (hunlinked _ (hbelow.trans hwhole))
        (ih hnames.2 (fun q hq => hshort q (List.mem_cons_of_mem part hq)) hentry hunlinked)

/-- **A file that was put at a path is read there.**  The path goes down only, its parts are short
enough, it ends with a name, and no link lies on the way. -/
theorem read?_add {path : String} {data : List UInt8} {last : Octets}
    (hparts : parts (Octets.ofText path.toList) = names ++ [last]) (hnames : ['.', '.'] ∉ names)
    (hshort : ∀ part ∈ names ++ [last], part.length ≤ nameLimit)
    (hplain : last ≠ [] ∧ last ≠ ['.'] ∧ last ≠ ['.', '.'])
    (hunlinked : ∀ q, q <+: t.named path → ∀ target, t.entry? q ≠ some (.link target)) :
    (t.add path (.file data)).read? path = some data := by
  have hentry := entry?_add_self t path (.file data)
  have hkept : ∀ q, q <+: t.named path →
      ∀ target, entry? (t.add path (.file data)) q ≠ some (.link target) := by
    intro q hq target
    by_cases heq : q = t.named path
    · rw [heq, hentry]
      simp
    · rcases entry?_add_of_ne (t := t) path (.file data) heq with hsame | ⟨-, hmade⟩
      · rw [hsame]
        exact hunlinked q hq target
      · rw [hmade]
        simp
  have hhere : (t.add path (.file data)).here = t.here := by
    rw [add_eq, here_put, here_foldl_addDirectory]
  have hnonempty : (Octets.ofText path.toList).isEmpty = false := by
    cases htext : Octets.ofText path.toList with
    | nil =>
        rw [htext] at hparts
        have hsame : [] ++ [[]] = names ++ [last] := hparts
        exact absurd (List.append_inj_right' hsame rfl) (by simpa using Ne.symm hplain.1)
    | cons c rest => rfl
  have hleads : Leads (t.add path (.file data)) true (names.length + 1)
      (origin t.here (Octets.ofText path.toList)) (names ++ [last]) (t.named path) := by
    rw [named, hparts] at hentry hkept ⊢
    exact leads_of_unlinked hnames (fun part hpart => hshort part (List.mem_append_left _ hpart))
      (hshort last (by simp)) hplain hentry hkept
  have hresolve : (t.add path (.file data)).resolve true (Octets.ofText path.toList) =
      .ok (t.named path) := by
    rw [resolve, hnonempty]
    dsimp only [Bool.false_eq_true, if_false]
    rw [if_neg (by simp), hhere, hparts]
    refine hleads.follow ?_
    have hroom : 0 < linkLimit * nameLimit := by decide
    rw [List.length_append, List.length_singleton]
    omega
  rw [read?, hresolve]
  dsimp only
  rw [hentry]

end CommandBot.FileTree
