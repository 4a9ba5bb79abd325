/-
**What a search outside of NSFW channels finds.**

The image board reads a query as alternatives with two bars between them, and an alternative as tags
with commas between them.  An image is found if it carries all tags of one alternative.  The words
of a search go into the query as they are, and the safety tag is put at the end, where it belongs to
the last alternative only.  So every image that is found is safe if and only if the words ask for
safe images in each of their alternatives but the last.

Main definitions:

* `CommandBot.Board.alternatives`, `CommandBot.Board.tags` — how the image board reads a query;
* `CommandBot.Board.Matches` — the images that a query finds;
* `CommandBot.Board.OnlySafe` — queries that find nothing but safe images.

Main results:

* `CommandBot.Board.alternatives_append` — what is put at the end goes to the last alternative;
* `CommandBot.Search.onlySafe_query_iff`, `CommandBot.Search.onlySafe_query_of_noBar` — **the words
  that are searched safely**, plain tags among them;
* `CommandBot.Action.search_onlySafe_iff` — what the search command asks for;
* `CommandBot.Board.matches_unsafe` — words with an alternative find images that are not safe.
-/

import CommandBot.Proofs.Bot.Confinement

set_option relaxedAutoImplicit false
set_option autoImplicit false

namespace CommandBot

open Program

namespace Board

/-! ### Queries -/

/-- The parts of a query between two bars and two bars. -/
def alternatives : List Char → List (List Char)
  | [] => [[]]
  | '|' :: '|' :: rest => [] :: alternatives rest
  | c :: rest => (alternatives rest).modifyHead (c :: ·)

/-- A text without its outer spaces. -/
def trimSpaces (s : List Char) : List Char :=
  ((s.dropWhile (· = ' ')).reverse.dropWhile (· = ' ')).reverse

/-- The tags of an alternative, between commas. -/
def tags (alternative : List Char) : List String :=
  (alternative.splitOn ',').map fun tag => String.ofList (trimSpaces tag)

/-- **The images that a query finds**: those that carry all tags of one alternative.  An image is
given by its tags. -/
def Matches (image : List String) (query : String) : Prop :=
  ∃ alternative ∈ alternatives query.toList, ∀ tag ∈ tags alternative, tag ∈ image

/-- A query that finds nothing but safe images. -/
def OnlySafe (query : String) : Prop :=
  ∀ image, Matches image query → Search.safetyTag ∈ image

/-- A query finds safe images only if each alternative asks for them, since an image may have just
the tags of an alternative. -/
theorem onlySafe_iff {query : String} :
    OnlySafe query ↔
      ∀ alternative ∈ alternatives query.toList, Search.safetyTag ∈ tags alternative := by
  constructor
  · intro h alternative halternative
    exact h (tags alternative) ⟨alternative, halternative, fun _ => id⟩
  · rintro h image ⟨alternative, halternative, himage⟩
    exact himage _ (h alternative halternative)

/-! ### Putting something at the end -/

section Appending

variable {s t : List Char} {c : Char}

/-- A character that does not begin two bars belongs to the first alternative. -/
theorem alternatives_cons (h : ¬ ['|', '|'] <+: c :: s) :
    alternatives (c :: s) = (alternatives s).modifyHead (c :: ·) := by
  rw [alternatives]
  rintro rest rfl rfl
  exact h (List.prefix_append ['|', '|'] rest)

/-- A text without bars is one alternative. -/
theorem alternatives_of_not_mem (h : '|' ∉ s) : alternatives s = [s] := by
  induction s with
  | nil => rfl
  | cons c s ih =>
      rw [List.mem_cons, not_or] at h
      rw [alternatives_cons, ih h.2]
      · rfl
      · intro hbars
        exact h.1 (List.cons_prefix_cons.1 hbars).1

/-- **What is put at the end of a query goes to its last alternative**, if it has no bars. -/
theorem alternatives_append (ht : '|' ∉ t) :
    ∃ front last, alternatives s = front ++ [last] ∧
      alternatives (s ++ t) = front ++ [last ++ t] := by
  induction s using alternatives.induct with
  | case1 => exact ⟨[], [], rfl, alternatives_of_not_mem ht⟩
  | case2 rest ih =>
      obtain ⟨front, last, hrest, happend⟩ := ih
      refine ⟨[] :: front, last, ?_, ?_⟩
      · rw [alternatives, hrest, List.cons_append]
      · rw [List.cons_append, List.cons_append, alternatives, happend, List.cons_append]
  | case3 c rest hbars ih =>
      have hrest : ¬ ['|', '|'] <+: c :: rest := by
        rintro ⟨more, hmore⟩
        cases hmore
        exact hbars more rfl rfl
      have happend : ¬ ['|', '|'] <+: c :: (rest ++ t) := by
        rw [List.cons_prefix_cons]
        rintro ⟨rfl, hsecond⟩
        -- The second bar would stand in the rest, or in what is put at the end.
        cases rest with
        | nil => exact ht (hsecond.subset List.mem_cons_self)
        | cons d rest =>
            obtain ⟨rfl, -⟩ := List.cons_prefix_cons.1 hsecond
            exact hbars rest rfl rfl
      obtain ⟨front, last, hfront, hback⟩ := ih
      rw [List.cons_append, alternatives_cons hrest, alternatives_cons happend, hfront, hback]
      cases front with
      | nil => exact ⟨[], c :: last, rfl, rfl⟩
      | cons first front => exact ⟨(c :: first) :: front, last, rfl, rfl⟩

end Appending

end Board

/-! ### The words of a search -/

namespace Search

open Board

/-- What is put at the end of the words. -/
def safetyMark : List Char := ',' :: ' ' :: safetyTag.toList

theorem toList_query (args : List String) :
    (query args false).toList = (line args).toList ++ safetyMark := by
  simp [query, safetyMark]

/-- An alternative with the safety tag at its end asks for safe images. -/
theorem safetyTag_mem_tags (alternative : List Char) :
    safetyTag ∈ tags (alternative ++ safetyMark) := by
  have htag : String.ofList (trimSpaces (' ' :: safetyTag.toList)) = safetyTag := by decide
  have hlast : (' ' :: safetyTag.toList).splitOn ',' = [' ' :: safetyTag.toList] := by decide
  rw [tags, safetyMark, List.splitOn_append_cons_self, hlast, List.map_append, List.map_singleton,
    htag]
  exact List.mem_append_right _ (List.mem_singleton.2 rfl)

/-- **The words that are searched safely**: those that ask for safe images in each of their
alternatives but the last, which has the safety tag anyway. -/
theorem onlySafe_query_iff (args : List String) :
    OnlySafe (query args false) ↔
      ∀ alternative ∈ (alternatives (line args).toList).dropLast,
        safetyTag ∈ tags alternative := by
  obtain ⟨front, last, hline, hquery⟩ :=
    alternatives_append (s := (line args).toList) (t := safetyMark) (by decide)
  rw [onlySafe_iff, toList_query, hline, hquery, List.dropLast_concat]
  constructor
  · intro h alternative halternative
    exact h alternative (List.mem_append_left _ halternative)
  · intro h alternative halternative
    rcases List.mem_append.1 halternative with hfront | hlast
    · exact h alternative hfront
    · rw [List.mem_singleton.1 hlast]
      exact safetyTag_mem_tags last

/-- Plain tags are searched safely. -/
theorem onlySafe_query_of_noBar {args : List String} (h : '|' ∉ (line args).toList) :
    OnlySafe (query args false) := by
  rw [onlySafe_query_iff, alternatives_of_not_mem h]
  exact nofun

end Search

/-! ### The search command -/

section Searching

variable {ctx : Context} {args : List String} {exchanges : List ((q : Request) × q.Answer)}
  {result : Except CommandError Reply}

/-- **What the search command asks for** outside of NSFW channels.  Words that say nothing are not
searched for; any others become one query, which finds nothing but safe images exactly if the words
ask for safe images in each of their alternatives but the last. -/
theorem Action.search_onlySafe_iff (hnsfw : ctx.channel.nsfw = false)
    (h : Runs (Action.search.perform args ctx) exchanges result) :
    (∀ arg ∈ args, Text.isBlank arg = true) ∧ asked exchanges = [] ∨
      ∃ query, asked exchanges = [.service (.search query)] ∧
        (Board.OnlySafe query ↔
          ∀ alternative ∈ (Board.alternatives (Search.line args).toList).dropLast,
            "safe" ∈ Board.tags alternative) := by
  have hasked := asked_showImage h
  split at hasked
  · next hidle =>
      refine .inl ⟨?_, hasked⟩
      simpa [Search.isIdle, Text.isEmpty_trim] using hidle
  · rw [hnsfw] at hasked
    exact .inr ⟨_, hasked, Search.onlySafe_query_iff args⟩

end Searching

/-- Words with two alternatives, of which only the second gets the safety tag. -/
def Search.twoAlternatives : List String := ["a", "||", "b"]

/-- A search for them in a direct conversation, with an image board that is down. -/
theorem Action.search_onlySafe_iff_twoAlternatives :
    (Conversation.lonely.context (.ping 7 "ann")).channel.nsfw = false ∧
    ∃ exchanges result,
      Runs (Action.search.perform Search.twoAlternatives
        (Conversation.lonely.context (.ping 7 "ann"))) exchanges result ∧
      asked exchanges = [.service (.search "a || b, safe")] ∧
      ¬ Board.OnlySafe "a || b, safe" := by
  have hruns := runs_transcript Conversation.lonely.answer
    (Action.search.perform Search.twoAlternatives (Conversation.lonely.context (.ping 7 "ann")))
    (Table.empty, ())
  refine ⟨rfl, _, _, hruns, rfl, ?_⟩
  rcases Action.search_onlySafe_iff rfl hruns with ⟨hblank, -⟩ | ⟨query, hasked, hiff⟩
  · exact absurd (hblank "a" (by decide)) (by decide)
  · have hquery : query = "a || b, safe" := by
      cases hasked
      rfl
    rw [← hquery, hiff]
    intro hsafe
    exact absurd (hsafe ['a', ' '] (by decide)) (by decide)

/-- **Words with an alternative find images that are not safe.** -/
theorem Board.matches_unsafe :
    ¬ ∀ args image, Matches image (Search.query args false) → "safe" ∈ image := by
  intro h
  have hfound : Matches ["a"] (Search.query Search.twoAlternatives false) :=
    ⟨['a', ' '], by decide, by decide⟩
  exact absurd (h _ _ hfound) (by decide)

end CommandBot
