/-
**What a search asks for.**

The server takes the parameters of a search from the query of the address it is asked for, which is
a form.  Whatever the words of a search are, and whatever the key is, the server finds one parameter
for each of them, with nothing added, dropped or changed.

Main definitions:

* `CommandBot.Board.query?` — the query of an address;
* `CommandBot.Board.parameters?` — the parameters that a server finds in an address.

Main results:

* `CommandBot.Board.query?_target` — the query of a search is its form;
* `CommandBot.Board.search_parameters` — **a search asks with its words and its key, and nothing
  else.**
-/

import CommandBot.Board.Client
import CommandBot.Proofs.Text.Form
import Mathlib.Data.List.TakeWhile

set_option relaxedAutoImplicit false
set_option autoImplicit false

namespace CommandBot.Board

open Text (splitAtFirst? splitAtFirst?_eq_some_iff)

/-! ### Addresses -/

/-- An address without the fragment that a `#` begins. -/
def withoutFragment (address : List Char) : List Char := address.takeWhile fun c => c ≠ '#'

/-- **The query of an address**: what follows the first `?`, without a fragment. -/
def query? (address : String) : Option (List Char) :=
  (splitAtFirst? '?' (withoutFragment address.toList)).map Prod.snd

/-- **The parameters that a server finds in an address.** -/
def parameters? (address : String) : Option (List (String × String)) :=
  (query? address).map Text.Form.decode

theorem withoutFragment_of_not_mem {address : List Char} (h : '#' ∉ address) :
    withoutFragment address = address := by
  refine List.takeWhile_eq_self_iff.2 fun c hc => decide_eq_true ?_
  rintro rfl
  exact h hc

/-! ### The address of a search -/

theorem toList_target (apiKey : Option String) (query : String) :
    (target apiKey query).toList = path.toList ++ '?' :: form apiKey query := by
  have hmark : "?".toList = ['?'] := rfl
  rw [target, String.toList_append, String.toList_append, List.append_assoc, hmark,
    List.singleton_append, String.toList_ofList]

theorem hash_not_mem_target (apiKey : Option String) (query : String) :
    '#' ∉ (target apiKey query).toList := by
  have hform : '#' ∉ form apiKey query :=
    Text.Form.not_mem_encode Text.Form.isDivider_hash (by decide) (by decide) _
  rw [toList_target, List.mem_append, List.mem_cons]
  rintro (hpath | hmark | hquery)
  · exact absurd hpath (by decide)
  · exact absurd hmark (by decide)
  · exact hform hquery

/-- The query of a search is its form. -/
theorem query?_target (apiKey : Option String) (query : String) :
    query? (target apiKey query) = some (form apiKey query) := by
  have hsplit : splitAtFirst? '?' (target apiKey query).toList =
      some (path.toList, form apiKey query) :=
    splitAtFirst?_eq_some_iff.2 ⟨toList_target apiKey query, by decide⟩
  rw [query?, withoutFragment_of_not_mem (hash_not_mem_target apiKey query), hsplit]
  rfl

theorem parameters?_target (apiKey : Option String) (query : String) :
    parameters? (target apiKey query) = some (pairs apiKey query) := by
  rw [parameters?, query?_target, Option.map_some, form, Text.Form.decode_encode]

theorem pairs_inj {apiKey apiKey' : Option String} {query query' : String} :
    pairs apiKey query = pairs apiKey' query' ↔ apiKey = apiKey' ∧ query = query' := by
  cases apiKey <;> cases apiKey' <;> simp [pairs, and_comm]

/-- **A search asks with its words and its key, and nothing else.**  What comes of it is what comes
of the answer to one address, in which the server finds the words alone, or the words and then the
key; and no other search asks for the same address. -/
theorem search_parameters :
    (∀ query, parameters? (target none query) = some [("q", query)]) ∧
    (∀ query key, parameters? (target (some key) query) = some [("q", query), ("key", key)]) ∧
    (∀ apiKey query server,
      search server apiKey query = outcome (server (target apiKey query))) ∧
    ∀ apiKey apiKey' query query',
      target apiKey query = target apiKey' query' ↔ apiKey = apiKey' ∧ query = query' := by
  refine ⟨fun query => parameters?_target none query,
    fun query key => parameters?_target (some key) query, fun _ _ _ => rfl, ?_⟩
  intro apiKey apiKey' query query'
  constructor
  · intro h
    have hpairs := parameters?_target apiKey query
    rw [h, parameters?_target, Option.some.injEq] at hpairs
    exact pairs_inj.1 hpairs.symm
  · rintro ⟨rfl, rfl⟩
    rfl

/-- Words that look like another parameter and a fragment are words. -/
example : target none "a&key=b#ö +%" =
    "/api/v1/json/search/images?q=a%26key%3Db%23%C3%B6+%2B%25" := by rfl

end CommandBot.Board
