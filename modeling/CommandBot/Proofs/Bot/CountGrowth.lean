/-
**When a counter never falls.**

The counter of a user goes up with each command, but the record is found by its name, and each
command writes the name that its author has at the time.  A command under an empty name hides the
record; the next one takes the user for a new one and starts to count from one again.  This is the
only way in which a counter falls or a record gets lost: from an empty store on, the counter of a
user never falls and their record is never lost exactly if no command of theirs under an empty name
follows one under a name that is not empty.

Main definitions:

* `CommandBot.Store.Holds` — the count that a user's hash shows;
* `CommandBot.Store.Grows` — the later store shows no smaller count, and still has the record;
* `CommandBot.Conversation.namesOf` — the names under which a user sends commands.

Main results:

* `CommandBot.Conversation.grows_of_names`, `CommandBot.Conversation.names_of_grows` — the two
  directions;
* `CommandBot.Conversation.count_grows_iff` — **when a counter never falls**;
* `CommandBot.Conversation.count_falls` — a counter that does.
-/

import CommandBot.Proofs.Bot.Conversation

set_option relaxedAutoImplicit false
set_option autoImplicit false

namespace CommandBot

/-! ### The count that is shown -/

namespace Store

/-- The count that a user's hash shows. -/
def Holds (s : Store) (id n : UInt64) : Prop :=
  ∃ text, (s.hash (userKey id)).get? UserRecord.postsField = some text ∧
    UserRecord.readPosts (some text) = .ok n

/-- Whether there is a record of a user. -/
def HasRecord (s : Store) (id : UInt64) : Prop := ∃ r, s.record id = .ok r

/-- **The later store shows no smaller count, and still has the record.** -/
def Grows (id : UInt64) (s t : Store) : Prop :=
  (∀ a b, s.Holds id a → t.Holds id b → a ≤ b) ∧ (s.HasRecord id → t.HasRecord id)

/-- The count that a user's hash shows; it is zero if none can be read. -/
def heldCount (s : Store) (id : UInt64) : Nat :=
  match UserRecord.readPosts ((s.hash (userKey id)).get? UserRecord.postsField) with
  | .ok n => n.toNat
  | .error _ => 0

variable {s t : Store} {id : UInt64}

theorem Holds.heldCount_eq {n : UInt64} (h : s.Holds id n) : s.heldCount id = n.toNat := by
  obtain ⟨text, htext, hread⟩ := h
  simp only [heldCount, htext, hread]

theorem heldCount_of_record {r : UserRecord} (h : s.record id = .ok r) :
    s.heldCount id = r.posts.toNat := by
  obtain ⟨-, -, -, -, hposts, -⟩ := UserRecord.ofHash_eq_ok_iff.1 h
  simp only [heldCount, hposts]

/-- Whoever looks at counts, absent ones included, sees them grow. -/
theorem grows_of_heldCount_le (hcount : s.heldCount id ≤ t.heldCount id)
    (hrecord : s.HasRecord id → t.HasRecord id) : Grows id s t := by
  refine ⟨?_, hrecord⟩
  intro a b ha hb
  rw [ha.heldCount_eq, hb.heldCount_eq] at hcount
  exact UInt64.le_iff_toNat_le.2 hcount

theorem Grows.refl (id : UInt64) (s : Store) : Grows id s s :=
  grows_of_heldCount_le (Nat.le_refl _) fun h => h

/-- An update that gives a count makes it the count that is shown. -/
theorem heldCount_write {u : UserUpdate} {n : UInt64} (h : u.posts = some n) :
    (s.write (userKey id) u.fields).heldCount id = n.toNat := by
  have hfield : ((s.write (userKey id) u.fields).hash (userKey id)).get? UserRecord.postsField =
      some n.toNat.repr := by
    have hvalue : u.value? UserRecord.postsField = u.posts.map fun n => n.toNat.repr := rfl
    rw [hash_write_self, UserUpdate.get?_setAll_fields, hvalue, h]
    rfl
  simp only [heldCount, hfield, UserRecord.readPosts_repr]

end Store

/-! ### Names -/

namespace Conversation

variable {σ : Type} (c : Conversation σ)

/-- The names under which a user sends commands. -/
def namesOf (u : UInt64) (messages : List Message) : List String :=
  (c.commandsOf u messages).map (·.author.username)

/-- No empty name follows one that is not empty. -/
def KeepsName (names : List String) : Prop := names.Pairwise fun a b => a ≠ "" → b ≠ ""

theorem namesOf_cons (u : UInt64) (m : Message) (rest : List Message) :
    c.namesOf u (m :: rest) =
      if c.isCounted m = true ∧ m.author.id = u then m.author.username :: c.namesOf u rest
      else c.namesOf u rest := by
  simp only [namesOf, commandsOf_cons]
  split
  · rfl
  · rfl

/-- What keeps a counter from falling, as long as the messages to come keep the name: a user with a
record has no empty name any more, and one without has at most the count of one. -/
def Steady (u : UInt64) (messages : List Message) (s : Store) : Prop :=
  KeepsName (c.namesOf u messages) ∧
    (s.HasRecord u → ∀ name ∈ c.namesOf u messages, name ≠ "") ∧
    (¬ s.HasRecord u → s.record u = .error .notFound ∧ s.heldCount u ≤ 1)

variable {c} {u : UInt64} {m : Message} {rest : List Message} {s : Store}

/-- A message that does not count for the user makes no difference. -/
theorem Steady.skip (h : c.Steady u (m :: rest) s)
    (hm : ¬ (c.isCounted m = true ∧ m.author.id = u)) : c.Steady u rest s := by
  have hnames : c.namesOf u (m :: rest) = c.namesOf u rest := by rw [namesOf_cons, if_neg hm]
  rw [Steady, hnames] at h
  exact h

/-- A command of a user with a record: the record stays, since the name is not empty. -/
theorem Steady.count_of_record {m : Message} {rest : List Message}
    (hrest : KeepsName (c.namesOf m.author.id rest)) (hname : m.author.username ≠ "")
    (hlater : ∀ name ∈ c.namesOf m.author.id rest, name ≠ "") {r : UserRecord}
    (hr : s.record m.author.id = .ok r) :
    (s.heldCount m.author.id ≤ (s.afterPost m.now m.author).heldCount m.author.id ∧
      (s.afterPost m.now m.author).HasRecord m.author.id) ∧
    c.Steady m.author.id rest (s.afterPost m.now m.author) := by
  obtain ⟨r', hr', -, hposts⟩ :=
    Store.record_afterPost m.now hname (Store.not_isUnreadable_of_ok hr)
  have hmax := Users.toNat_le_maxCount r.posts
  have hcount : s.postCount m.author.id = r.posts.toNat := by
    simp only [Store.postCount, hr]
  rw [Store.heldCount_of_record hr, Store.heldCount_of_record hr', hposts, hcount]
  refine ⟨⟨by omega, r', hr'⟩, hrest, fun _ => hlater, ?_⟩
  intro hnone
  exact absurd ⟨r', hr'⟩ hnone

/-- A command of a user without a record: one is made, and hidden if the name is empty. -/
theorem Steady.count_of_notFound {m : Message} {rest : List Message}
    (hrest : KeepsName (c.namesOf m.author.id rest))
    (hlater : ∀ name ∈ c.namesOf m.author.id rest, m.author.username ≠ "" → name ≠ "")
    (hr : s.record m.author.id = .error .notFound) (hcount : s.heldCount m.author.id ≤ 1) :
    s.heldCount m.author.id ≤ (s.afterPost m.now m.author).heldCount m.author.id ∧
      c.Steady m.author.id rest (s.afterPost m.now m.author) := by
  have hread := Store.not_isUnreadable_of_notFound hr
  have hone : (s.afterPost m.now m.author).heldCount m.author.id = 1 := by
    rw [Store.afterPost_of_notFound hr]
    exact Store.heldCount_write (u := .ofNewUser m.author m.now) (n := 1) rfl
  refine ⟨by omega, hrest, ?_, ?_⟩
  · rintro ⟨r', hr'⟩ name hmem
    refine hlater name hmem fun hempty => ?_
    rw [Store.record_afterPost_nameless m.now hempty hread] at hr'
    cases hr'
  · intro hnone
    have hempty : m.author.username = "" := by
      by_cases hname : m.author.username = ""
      · exact hname
      · obtain ⟨r', hr', -, -⟩ := Store.record_afterPost m.now hname hread
        exact absurd ⟨r', hr'⟩ hnone
    exact ⟨Store.record_afterPost_nameless m.now hempty hread, by omega⟩

/-- **A command of the user leaves the counter steady**, and does not lower it. -/
theorem Steady.count (h : c.Steady u (m :: rest) s) (hm : c.isCounted m = true)
    (hu : m.author.id = u) :
    (s.heldCount u ≤ (s.afterPost m.now m.author).heldCount u ∧
      (s.HasRecord u → (s.afterPost m.now m.author).HasRecord u)) ∧
    c.Steady u rest (s.afterPost m.now m.author) := by
  subst hu
  have hnames : c.namesOf m.author.id (m :: rest) =
      m.author.username :: c.namesOf m.author.id rest := by
    rw [namesOf_cons, if_pos ⟨hm, rfl⟩]
  obtain ⟨hkeeps, hrecord, hmissing⟩ := h
  rw [hnames] at hkeeps hrecord
  obtain ⟨hlater, hrest⟩ := List.pairwise_cons.1 hkeeps
  by_cases hs : s.HasRecord m.author.id
  · have hall := hrecord hs
    obtain ⟨r, hr⟩ := hs
    obtain ⟨⟨hle, hstill⟩, hsteady⟩ := Steady.count_of_record hrest
      (hall m.author.username List.mem_cons_self)
      (fun name hmem => hall name (List.mem_cons_of_mem _ hmem)) hr
    exact ⟨⟨hle, fun _ => hstill⟩, hsteady⟩
  · obtain ⟨hr, hcount⟩ := hmissing hs
    obtain ⟨hle, hsteady⟩ := Steady.count_of_notFound hrest hlater hr hcount
    exact ⟨⟨hle, fun hthere => absurd hthere hs⟩, hsteady⟩

/-! ### Names that are kept -/

/-- The user's hash is all that the counter depends on. -/
theorem Steady.congr {t : Store} (hhash : t.hash (userKey u) = s.hash (userKey u))
    (h : c.Steady u rest s) : c.Steady u rest t := by
  have hrecord : t.record u = s.record u := by simp only [Store.record, hhash]
  have hcount : t.heldCount u = s.heldCount u := by simp only [Store.heldCount, hhash]
  rw [Steady, Store.HasRecord, hrecord, hcount]
  exact h

/-- On an empty store a counter is steady if names are kept. -/
theorem steady_empty {messages : List Message} (h : KeepsName (c.namesOf u messages)) :
    c.Steady u messages Table.empty := by
  refine ⟨h, ?_, ?_⟩
  · rintro ⟨r, hr⟩
    cases hr
  · intro _
    exact ⟨rfl, Nat.zero_le 1⟩

variable (c)

/-- **While names are kept no counter falls.** -/
theorem grows_of_names (u : UInt64) (messages : List Message) (s : Store × σ)
    (h : c.Steady u messages s.1) : (c.moments messages s).Pairwise (Store.Grows u) := by
  -- Absent counts have to be compared too, or the relation would not be transitive.
  have hclimbs : (c.moments messages s).Pairwise fun t t' =>
      t.heldCount u ≤ t'.heldCount u ∧ (t.HasRecord u → t'.HasRecord u) := by
    refine c.pairwise_moments (c.Steady u) ?_ ?_ ?_ ?_ messages s h
    · intro t
      exact ⟨Nat.le_refl _, fun ht => ht⟩
    · intro t t' t'' h h'
      exact ⟨Nat.le_trans h.1 h'.1, fun ht => h'.2 (h.2 ht)⟩
    · intro m rest t hm ht
      by_cases hu : m.author.id = u
      · exact ht.count hm hu
      · have hhash := Store.hash_afterPost_of_ne t m.now hu
        refine ⟨?_, (ht.skip fun hboth => hu hboth.2).congr hhash⟩
        simp only [Store.heldCount, Store.HasRecord, Store.record, hhash]
        exact ⟨Nat.le_refl _, fun hthere => hthere⟩
    · intro m rest t hm ht
      refine ht.skip fun hboth => ?_
      rw [hm] at hboth
      cases hboth.1
  exact hclimbs.imp fun hpair => Store.grows_of_heldCount_le hpair.1 hpair.2

/-! ### Counters that do not fall -/

/-- The moments before and after a command that is counted are moments of the conversation. -/
theorem exists_moments_of_mem {m : Message} {messages : List Message} (hm : m ∈ messages)
    (hcount : c.isCounted m = true) (s : Store × σ) :
    ∃ t ∈ c.moments messages s, t.afterPost m.now m.author ∈ c.moments messages s := by
  induction messages generalizing s with
  | nil => cases hm
  | cons first rest ih =>
      rcases List.mem_cons.1 hm with rfl | hm
      · refine ⟨s.1, c.mem_moments _ s, ?_⟩
        rw [← (c.after_of_isCounted hcount s).1]
        exact List.mem_append_right _ (c.mem_moments rest (c.after m s))
      · obtain ⟨t, ht, hafter⟩ := ih hm (c.after first s)
        exact ⟨t, List.mem_append_right _ ht, List.mem_append_right _ hafter⟩

/-- **While a record is not lost no empty name follows**: a user who has a record at the beginning
sends no command under an empty name. -/
theorem name_ne_empty {u : UInt64} {messages : List Message} {s : Store × σ}
    (hrecord : s.1.HasRecord u) (h : (c.moments messages s).Pairwise (Store.Grows u)) :
    ∀ name ∈ c.namesOf u messages, name ≠ "" := by
  intro name hname hempty
  obtain ⟨m, hm, rfl⟩ := List.mem_map.1 hname
  obtain ⟨hmem, hboth⟩ := List.mem_filter.1 hm
  simp only [Bool.and_eq_true, beq_iff_eq] at hboth
  obtain ⟨hcount, rfl⟩ := hboth
  obtain ⟨t, ht, hafter⟩ := c.exists_moments_of_mem hmem hcount s
  have hfrom := c.of_pairwise_moments (Store.Grows.refl m.author.id) h
  obtain ⟨r, hr⟩ := (hfrom t ht).2 hrecord
  -- The record is there before the command, but the empty name hides it.
  obtain ⟨r', hr'⟩ := (hfrom _ hafter).2 hrecord
  rw [Store.record_afterPost_nameless m.now hempty (Store.not_isUnreadable_of_ok hr)] at hr'
  cases hr'

/-- **While no counter falls and no record is lost, names are kept.** -/
theorem names_of_grows (u : UInt64) (messages : List Message) (s : Store × σ)
    (hread : ¬ s.1.IsUnreadable u) (h : (c.moments messages s).Pairwise (Store.Grows u)) :
    KeepsName (c.namesOf u messages) := by
  induction messages generalizing s with
  | nil => exact List.Pairwise.nil
  | cons m rest ih =>
      have hrest : (c.moments rest (c.after m s)).Pairwise (Store.Grows u) :=
        (List.pairwise_append.1 h).2.1
      have hread' : ¬ (c.after m s).1.IsUnreadable u := by
        cases hm : c.isCounted m with
        | true =>
            rw [(c.after_of_isCounted hm s).1]
            exact Store.not_isUnreadable_afterPost m.now m.author hread
        | false =>
            rw [(c.after_of_not_isCounted hm s).1]
            exact hread
      have hnames := ih (c.after m s) hread' hrest
      rw [namesOf_cons]
      split
      · next hm =>
          obtain ⟨hcount, rfl⟩ := hm
          refine List.pairwise_cons.2 ⟨?_, hnames⟩
          intro name hname hfirst
          obtain ⟨r, hr, -, -⟩ := Store.record_afterPost m.now hfirst hread
          rw [← (c.after_of_isCounted hcount s).1] at hr
          exact c.name_ne_empty ⟨r, hr⟩ hrest name hname
      · exact hnames

/-- **When a counter never falls.**  In a conversation that begins with an empty store, the count of
a user never falls and their record is never lost exactly if no command of theirs under an empty
name follows one under a name that is not empty. -/
theorem count_grows_iff (messages : List Message) (outside : σ) (u : UInt64) :
    (c.moments messages (Table.empty, outside)).Pairwise (Store.Grows u) ↔
      ((c.commandsOf u messages).map (·.author.username)).Pairwise
        fun a b => a ≠ "" → b ≠ "" := by
  constructor
  · intro h
    have hread : ¬ Store.IsUnreadable Table.empty u := Store.not_isUnreadable_of_notFound rfl
    exact c.names_of_grows u messages (Table.empty, outside) hread h
  · intro h
    exact c.grows_of_names u messages (Table.empty, outside) (steady_empty h)

/-- **A counter that falls**: a user loses their name and gets it back. -/
theorem count_falls :
    ¬ (lonely.moments [.ping 7 "ann", .ping 7 "", .ping 7 "ann"] (Table.empty, ())).Pairwise
      (Store.Grows 7) := by
  intro h
  have hread : ¬ Store.IsUnreadable Table.empty 7 := Store.not_isUnreadable_of_notFound rfl
  have hnames := lonely.names_of_grows 7 _ _ hread h
  revert hnames
  unfold KeepsName
  decide

/-- At the moments of that conversation the counter shows two and then one again. -/
example : (lonely.moments [.ping 7 "ann", .ping 7 "", .ping 7 "ann"] (Table.empty, ())).map
    (·.heldCount 7) = [0, 0, 0, 1, 1, 1, 1, 1, 2, 2, 2, 2, 1, 1, 1] := by rfl

end Conversation

end CommandBot
