/-
**The values behind the settings.**

The settings depend on nothing but the values of their names.  Where they can be used, every value
was trimmed and none is blank; so the values can be written down again, with an absent one as a
blank and a switch as any of its words in any case, and what is read then are the same settings.

Main definitions:

* `CommandBot.Settings.Reads` — what each of the settings is read from;
* `CommandBot.Settings.IsUsable` — what holds of settings that were read;
* `CommandBot.Settings.Spells` — the values by which settings can be written down.

Main results:

* `CommandBot.Settings.ofLookup_congr` — **nothing but the values of the names counts**;
* `CommandBot.Settings.ofLookup_eq_ok_iff` — settings are what is read;
* `CommandBot.Settings.isUsable_of_ofLookup` — settings that were read can be used;
* `CommandBot.Settings.ofLookup_of_spells` — **settings that are written down are read back.**
-/

import CommandBot.Proofs.Text.Blank
import CommandBot.Settings.Basic
import Mathlib.Data.List.Forall2

set_option relaxedAutoImplicit false
set_option autoImplicit false

namespace CommandBot.Settings

open Text (IsTrimmed isSpace trim)

section Lookups

variable {lookup lookup' : String → Option String} {name value : String} {s : Settings}

/-! ### What counts -/

/-- **Nothing but the values of the names counts.** -/
theorem ofLookup_congr (h : ∀ name ∈ names, lookup name = lookup' name) :
    ofLookup lookup = ofLookup lookup' := by
  have hvalue : ∀ name ∈ names, value? lookup name = value? lookup' name := fun name hname => by
    rw [value?, value?, h name hname]
  have htoken : readToken lookup = readToken lookup' := by
    rw [readToken, readToken, hvalue _ (by simp [names])]
  have hlead : readPrefix lookup = readPrefix lookup' := by
    rw [readPrefix, readPrefix, h _ (by simp [names])]
  have hswitch : ∀ name ∈ names, readSwitch lookup name = readSwitch lookup' name :=
    fun name hname => by rw [readSwitch, readSwitch, hvalue name hname]
  rw [ofLookup, ofLookup, htoken, hlead, hswitch "DEBUG_OUTPUT" (by simp [names]),
    hswitch "SILLY_COMMANDS" (by simp [names]), hvalue "REDIS_URL" (by simp [names]),
    hvalue "REDIS_PASSWORD" (by simp [names]), hvalue "DERPI_API_KEY" (by simp [names]),
    hvalue "ASSETS_DIR" (by simp [names])]

theorem exists_of_bind_eq_ok {ε α β : Type} {x : Except ε α} {f : α → Except ε β} {b : β}
    (h : x >>= f = .ok b) : ∃ a, x = .ok a ∧ f a = .ok b := by
  cases x with
  | error e => cases h
  | ok a => exact ⟨a, rfl, h⟩

/-- What each of the settings is read from. -/
structure Reads (lookup : String → Option String) (s : Settings) : Prop where
  token : readToken lookup = .ok s.authToken
  lead : readPrefix lookup = .ok s.commandPrefix
  debug : readSwitch lookup "DEBUG_OUTPUT" = .ok s.debug
  silly : readSwitch lookup "SILLY_COMMANDS" = .ok s.sillyReplies
  redisUrl : value? lookup "REDIS_URL" = s.redisUrl
  redisPassword : value? lookup "REDIS_PASSWORD" = s.redisPassword
  derpiApiKey : value? lookup "DERPI_API_KEY" = s.derpiApiKey
  assetsDir : (value? lookup "ASSETS_DIR").getD defaultAssetsDir = s.assetsDir

/-- Settings are what is read. -/
theorem ofLookup_eq_ok_iff : ofLookup lookup = .ok s ↔ Reads lookup s := by
  constructor
  · intro h
    obtain ⟨token, htoken, h⟩ := exists_of_bind_eq_ok h
    obtain ⟨lead, hlead, h⟩ := exists_of_bind_eq_ok h
    obtain ⟨debug, hdebug, h⟩ := exists_of_bind_eq_ok h
    obtain ⟨silly, hsilly, h⟩ := exists_of_bind_eq_ok h
    cases h
    exact ⟨htoken, hlead, hdebug, hsilly, rfl, rfl, rfl, rfl⟩
  · intro h
    rw [ofLookup, h.token, h.lead, h.debug, h.silly, h.redisUrl, h.redisPassword, h.derpiApiKey,
      h.assetsDir]
    rfl

/-! ### Values that were read -/

/-- A value without outer white space that is not empty. -/
structure IsProper (value : String) : Prop where
  nonempty : value ≠ ""
  trimmed : IsTrimmed value.toList

theorem IsProper.trim_eq (h : IsProper value) : trim value = value := by
  rw [← String.toList_inj, Text.toList_trim, Text.trimChars_of_isTrimmed h.trimmed]

theorem isProper_trim (h : (trim value).isEmpty ≠ true) : IsProper (trim value) := by
  refine ⟨by simpa using h, ?_⟩
  rw [Text.toList_trim]
  exact Text.isTrimmed_trimChars _

theorem isProper_of_value? (h : value? lookup name = some value) : IsProper value := by
  unfold value? at h
  split at h
  · cases h
  · split at h
    · cases h
    · next hblank =>
        cases h
        exact isProper_trim hblank

/-- What holds of settings that were read. -/
structure IsUsable (s : Settings) : Prop where
  token : IsProper s.authToken
  noPlaceholder : s.authToken ≠ placeholderToken
  lead : IsProper s.commandPrefix
  redisUrl : ∀ value ∈ s.redisUrl, IsProper value
  redisPassword : ∀ value ∈ s.redisPassword, IsProper value
  derpiApiKey : ∀ value ∈ s.derpiApiKey, IsProper value
  assetsDir : IsProper s.assetsDir

theorem isProper_of_readToken (h : readToken lookup = .ok value) :
    IsProper value ∧ value ≠ placeholderToken := by
  unfold readToken at h
  split at h
  · cases h
  · next token htoken =>
      split at h
      · cases h
      · next hplaceholder =>
          cases h
          exact ⟨isProper_of_value? htoken, hplaceholder⟩

theorem isProper_defaultPrefix : IsProper defaultPrefix :=
  ⟨by decide, Text.isTrimmed_of_all (by decide)⟩

theorem isProper_defaultAssetsDir : IsProper defaultAssetsDir :=
  ⟨by decide, Text.isTrimmed_of_all (by decide)⟩

theorem isProper_of_readPrefix (h : readPrefix lookup = .ok value) : IsProper value := by
  unfold readPrefix at h
  split at h
  · cases h
    exact isProper_defaultPrefix
  · split at h
    · cases h
      exact isProper_defaultPrefix
    · split at h
      · cases h
      · next hblank =>
          cases h
          exact isProper_trim hblank

/-- **Settings that were read can be used.** -/
theorem isUsable_of_ofLookup (h : ofLookup lookup = .ok s) : IsUsable s := by
  have hreads := ofLookup_eq_ok_iff.1 h
  obtain ⟨htoken, hplaceholder⟩ := isProper_of_readToken hreads.token
  refine ⟨htoken, hplaceholder, isProper_of_readPrefix hreads.lead, ?_, ?_, ?_, ?_⟩
  · intro value hvalue
    exact isProper_of_value? (hreads.redisUrl.trans hvalue)
  · intro value hvalue
    exact isProper_of_value? (hreads.redisPassword.trans hvalue)
  · intro value hvalue
    exact isProper_of_value? (hreads.derpiApiKey.trans hvalue)
  · rw [← hreads.assetsDir]
    cases hvalue : value? lookup "ASSETS_DIR" with
    | none => exact isProper_defaultAssetsDir
    | some value => exact isProper_of_value? hvalue

/-- Every value of settings that can be used is proper. -/
theorem IsUsable.isProper_of_lookup (hs : IsUsable s) (h : s.lookup name = some value) :
    IsProper value := by
  have hswitch : ∀ on : Bool, IsProper (if on then "true" else "false") := by
    intro on
    cases on with
    | true => exact ⟨by decide, Text.isTrimmed_of_all (by decide)⟩
    | false => exact ⟨by decide, Text.isTrimmed_of_all (by decide)⟩
  unfold Settings.lookup at h
  split at h
  · cases h
    exact hs.token
  split at h
  · cases h
    exact hs.lead
  split at h
  · cases h
    exact hswitch s.debug
  split at h
  · cases h
    exact hswitch s.sillyReplies
  split at h
  · exact hs.redisUrl value h
  split at h
  · exact hs.redisPassword value h
  split at h
  · exact hs.derpiApiKey value h
  split at h
  · cases h
    exact hs.assetsDir
  · cases h

/-- Settings that were read have a prefix that is not empty. -/
theorem commandPrefix_ne_empty (h : ofLookup lookup = .ok s) : s.commandPrefix ≠ "" :=
  (isUsable_of_ofLookup h).lead.nonempty

/-! ### Values that are written down -/

/-- The words for a switch that is on, and for one that is off. -/
def switchWords : Bool → List String
  | true => ["true", "1", "yes", "on"]
  | false => ["false", "0", "no", "off"]

/-- A letter of a word, or the same in upper case. -/
def IsLetter (c plain : Char) : Prop := c = plain ∨ c = plain.toUpper

/-- A word for a switch, with any of its letters in upper case. -/
def SpellsSwitch (on : Bool) (word : String) : Prop :=
  ∃ plain ∈ switchWords on, List.Forall₂ IsLetter word.toList plain.toList

/-- **The values by which settings can be written down** under their names.  An absent value is
written as a blank. -/
def Spells (s : Settings) (name value : String) : Prop :=
  if name = "DEBUG_OUTPUT" then SpellsSwitch s.debug value
  else if name = "SILLY_COMMANDS" then SpellsSwitch s.sillyReplies value
  else value = (s.lookup name).getD ""

/-- The words for switches hold no white space and no NUL, and are in lower case. -/
theorem of_mem_switchWords {on : Bool} {plain : String} (hplain : plain ∈ switchWords on) {p : Char}
    (hp : p ∈ plain.toList) {c : Char} (hc : IsLetter c p) :
    c.toLower = p ∧ isSpace c = false ∧ c ≠ '\x00' := by
  have hall : ∀ on, ∀ plain ∈ switchWords on, (plain.toList.all fun p =>
      [p, p.toUpper].all fun c => c.toLower = p ∧ isSpace c = false ∧ c ≠ '\x00') = true := by decide
  have hletter : c ∈ [p, p.toUpper] := by simpa [IsLetter] using hc
  exact of_decide_eq_true
    (List.all_eq_true.1 (List.all_eq_true.1 (hall on plain hplain) p hp) c hletter)

theorem exists_of_forall₂ {α β : Type} {R : α → β → Prop} {l : List α} {l' : List β}
    (h : List.Forall₂ R l l') : ∀ a ∈ l, ∃ b ∈ l', R a b := by
  induction h with
  | nil => exact nofun
  | cons hab _ ih =>
      intro a ha
      rcases List.mem_cons.1 ha with rfl | ha
      · exact ⟨_, List.mem_cons_self, hab⟩
      · obtain ⟨b, hb, h⟩ := ih a ha
        exact ⟨b, List.mem_cons_of_mem _ hb, h⟩

/-- A word for a switch holds no white space and no NUL. -/
theorem SpellsSwitch.of_mem {on : Bool} {word : String} (h : SpellsSwitch on word) {c : Char}
    (hc : c ∈ word.toList) : isSpace c = false ∧ c ≠ '\x00' := by
  obtain ⟨plain, hplain, hletters⟩ := h
  obtain ⟨p, hp, hletter⟩ := exists_of_forall₂ hletters c hc
  exact (of_mem_switchWords hplain hp hletter).2

theorem SpellsSwitch.isProper {on : Bool} {word : String} (h : SpellsSwitch on word) :
    IsProper word := by
  refine ⟨?_, Text.isTrimmed_of_forall fun c hc => (h.of_mem hc).1⟩
  rintro rfl
  obtain ⟨plain, hplain, hletters⟩ := h
  rw [String.toList_empty, List.forall₂_nil_left_iff, String.toList_eq_nil_iff] at hletters
  subst hletters
  revert on
  decide

/-- **Every word for a switch is understood.** -/
theorem switch?_of_spellsSwitch {on : Bool} {word : String} (h : SpellsSwitch on word) :
    switch? word = some on := by
  obtain ⟨plain, hplain, hletters⟩ := h
  have hmap : ∀ {s t : List Char}, List.Forall₂ IsLetter s t → (∀ p ∈ t, p ∈ plain.toList) →
      s.map Char.toLower = t := by
    intro s t h
    induction h with
    | nil => exact fun _ => rfl
    | @cons c p s t hletter _ ih =>
        intro ht
        rw [List.map_cons, (of_mem_switchWords hplain (ht p List.mem_cons_self) hletter).1,
          ih fun q hq => ht q (List.mem_cons_of_mem _ hq)]
  have hlower : word.toLower = plain := by
    rw [← String.toList_inj]
    exact String.toList_map.trans (hmap hletters fun _ hp => hp)
  have hall : ∀ on, ∀ plain ∈ switchWords on,
      (if plain ∈ ["true", "1", "yes", "on"] then some true
        else if plain ∈ ["false", "0", "no", "off"] then some false else none) = some on := by
    decide
  rw [switch?, hlower]
  exact hall on plain hplain

/-- A value that is absent counts as a blank one. -/
theorem value?_of_getD {option : Option String} (h : (lookup name).getD "" = option.getD "")
    (hoption : ∀ value ∈ option, IsProper value) : value? lookup name = option := by
  have hvalue : value? lookup name = if (trim ((lookup name).getD "")).isEmpty then none
      else some (trim ((lookup name).getD "")) := by
    unfold value?
    cases lookup name with
    | none => rfl
    | some raw => rfl
  rw [hvalue, h]
  cases option with
  | none => rfl
  | some value =>
      have hproper := hoption value rfl
      rw [Option.getD_some, hproper.trim_eq, if_neg (by simpa using hproper.nonempty)]

/-- A proper value is read as it is. -/
theorem value?_of_isProper (h : (lookup name).getD "" = value) (hproper : IsProper value) :
    value? lookup name = some value := by
  refine value?_of_getD h ?_
  rintro _ ⟨⟩
  exact hproper

theorem readPrefix_of_isProper (h : (lookup "COMMAND_PREFIX").getD "" = value)
    (hproper : IsProper value) : readPrefix lookup = .ok value := by
  unfold readPrefix
  cases hlookup : lookup "COMMAND_PREFIX" with
  | none =>
      rw [hlookup] at h
      exact absurd h.symm hproper.nonempty
  | some raw =>
      rw [hlookup, Option.getD_some] at h
      subst h
      have hnonempty : raw.isEmpty ≠ true := by simpa using hproper.nonempty
      dsimp only
      rw [hproper.trim_eq, if_neg hnonempty, if_neg hnonempty]

theorem readSwitch_of_spellsSwitch {on : Bool} (h : SpellsSwitch on ((lookup name).getD "")) :
    readSwitch lookup name = .ok on := by
  rw [readSwitch, value?_of_isProper rfl h.isProper]
  dsimp only
  rw [switch?_of_spellsSwitch h]

/-- **Settings that are written down are read back.** -/
theorem ofLookup_of_spells (hs : IsUsable s)
    (h : ∀ name ∈ names, Spells s name ((lookup name).getD "")) : ofLookup lookup = .ok s := by
  simp only [names, List.forall_mem_cons] at h
  obtain ⟨htoken, hlead, hdebug, hsilly, hredisUrl, hredisPassword, hderpiApiKey, hassetsDir, -⟩ :=
    h
  rw [ofLookup_eq_ok_iff]
  constructor
  case token =>
    rw [readToken, value?_of_isProper htoken hs.token]
    exact if_neg hs.noPlaceholder
  case lead => exact readPrefix_of_isProper hlead hs.lead
  case debug => exact readSwitch_of_spellsSwitch hdebug
  case silly => exact readSwitch_of_spellsSwitch hsilly
  case redisUrl => exact value?_of_getD hredisUrl hs.redisUrl
  case redisPassword => exact value?_of_getD hredisPassword hs.redisPassword
  case derpiApiKey => exact value?_of_getD hderpiApiKey hs.derpiApiKey
  case assetsDir =>
    rw [value?_of_isProper hassetsDir hs.assetsDir]
    rfl

end Lookups

end CommandBot.Settings
