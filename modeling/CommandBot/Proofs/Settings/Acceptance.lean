/-
**Which settings are accepted.**

Each setting is read from the text under its name, and what counts of a text is what is left without
its outer white space; a text of nothing but white space counts as absent.  The prefix is the
exception: an empty one is absent, but a blank one is refused.  Settings are accepted exactly if the
token, the prefix and both switches can be read, and the first of the four that cannot be read is
reported.  What was accepted is in a normal form, and is accepted again as it is.

Main definitions:

* `CommandBot.Settings.Gives` — a text with a visible character stands under a name;
* `CommandBot.Settings.TokenIs`, `CommandBot.Settings.PrefixIs`, `CommandBot.Settings.SwitchIs`,
  `CommandBot.Settings.OptionIs` — **what single settings are read as**;
* `CommandBot.Settings.Configures` — settings are what a lookup says;
* `CommandBot.Settings.Refuses` — **the first offence of a lookup.**

Main results:

* `CommandBot.Settings.switch?_eq_some_iff` — the words for a switch, in any case;
* `CommandBot.Settings.readToken_eq_ok_iff`, `CommandBot.Settings.readToken_eq_error_iff` and those
  of the prefix and of the switches — when a setting can be read, and what is reported if not;
* `CommandBot.Settings.ofLookup_accepts_iff` — **which settings are accepted, and which offence is
  reported.**
-/

import CommandBot.Proofs.Settings.Values

set_option relaxedAutoImplicit false
set_option autoImplicit false

namespace CommandBot.Settings

open Text (isSpace trim)

/-! ### What a lookup says -/

section Saying

variable (lookup : String → Option String) (name : String)

/-- A text with a visible character stands under a name. -/
structure Gives (raw : String) : Prop where
  found : lookup name = some raw
  visible : ∃ c ∈ raw.toList, isSpace c = false

/-- The token: a text other than that of the example file. -/
inductive TokenIs : String → Prop where
  | given {raw : String} (h : Gives lookup "DISCORD_AUTH_TOKEN" raw)
      (hown : trim raw ≠ "YOUR_BOT_TOKEN_HERE") : TokenIs (trim raw)

/-- The prefix: a dot unless another one is given.  Only an empty text counts as none. -/
inductive PrefixIs : String → Prop where
  | default (h : ∀ raw, lookup "COMMAND_PREFIX" = some raw → raw = "") : PrefixIs "."
  | given {raw : String} (h : Gives lookup "COMMAND_PREFIX" raw) : PrefixIs (trim raw)

/-- A switch: on unless one of the words for it is given. -/
inductive SwitchIs : Bool → Prop where
  | default (h : ∀ raw, ¬ Gives lookup name raw) : SwitchIs true
  | given {raw : String} {on : Bool} (h : Gives lookup name raw)
      (hword : SpellsSwitch on (trim raw)) : SwitchIs on

/-- A setting that may be absent. -/
inductive OptionIs : Option String → Prop where
  | absent (h : ∀ raw, ¬ Gives lookup name raw) : OptionIs none
  | given {raw : String} (h : Gives lookup name raw) : OptionIs (some (trim raw))

/-- **Settings are what a lookup says.** -/
structure Configures (s : Settings) : Prop where
  token : TokenIs lookup s.authToken
  lead : PrefixIs lookup s.commandPrefix
  debug : SwitchIs lookup "DEBUG_OUTPUT" s.debug
  silly : SwitchIs lookup "SILLY_COMMANDS" s.sillyReplies
  redisUrl : OptionIs lookup "REDIS_URL" s.redisUrl
  redisPassword : OptionIs lookup "REDIS_PASSWORD" s.redisPassword
  derpiApiKey : OptionIs lookup "DERPI_API_KEY" s.derpiApiKey
  assetsDir : ∃ directory, OptionIs lookup "ASSETS_DIR" directory ∧
    s.assetsDir = directory.getD "assets"

/-- No word for a switch is given, but another text is. -/
structure Garbles (raw : String) : Prop extends Gives lookup name raw where
  noWord : ∀ on, ¬ SpellsSwitch on (trim raw)

/-- **The first offence of a lookup**, with what is reported of it.  The prefix is reported as it
was given, the words for switches without their outer white space. -/
inductive Refuses : SettingsError → Prop where
  | missing (h : ∀ raw, ¬ Gives lookup "DISCORD_AUTH_TOKEN" raw) :
      Refuses (.missing "DISCORD_AUTH_TOKEN")
  | placeholder {raw : String} (h : Gives lookup "DISCORD_AUTH_TOKEN" raw)
      (hexample : trim raw = "YOUR_BOT_TOKEN_HERE") : Refuses (.placeholder "DISCORD_AUTH_TOKEN")
  | blankPrefix {token raw : String} (htoken : TokenIs lookup token)
      (h : lookup "COMMAND_PREFIX" = some raw) (hnonempty : raw ≠ "")
      (hblank : ∀ c ∈ raw.toList, isSpace c = true) :
      Refuses (.invalidValue "COMMAND_PREFIX" raw)
  | debug {token lead raw : String} (htoken : TokenIs lookup token) (hlead : PrefixIs lookup lead)
      (h : Garbles lookup "DEBUG_OUTPUT" raw) : Refuses (.invalidValue "DEBUG_OUTPUT" (trim raw))
  | silly {token lead raw : String} {on : Bool} (htoken : TokenIs lookup token)
      (hlead : PrefixIs lookup lead) (hdebug : SwitchIs lookup "DEBUG_OUTPUT" on)
      (h : Garbles lookup "SILLY_COMMANDS" raw) :
      Refuses (.invalidValue "SILLY_COMMANDS" (trim raw))

end Saying

/-! ### Texts -/

section Texts

variable {lookup : String → Option String} {name raw value : String} {option : Option String}

theorem isEmpty_trim_eq_false_iff :
    (trim raw).isEmpty = false ↔ ∃ c ∈ raw.toList, isSpace c = false := by
  simp [Text.isEmpty_trim, Text.isBlank]

theorem Gives.isEmpty_trim (h : Gives lookup name raw) : (trim raw).isEmpty = false :=
  isEmpty_trim_eq_false_iff.2 h.visible

/-- A value is what is given, without its outer white space. -/
theorem value?_eq_some_iff :
    value? lookup name = some value ↔ ∃ raw, Gives lookup name raw ∧ value = trim raw := by
  constructor
  · intro h
    unfold value? at h
    split at h
    · cases h
    · next raw hfound =>
        split at h
        · cases h
        · next hblank =>
            cases h
            rw [Bool.not_eq_true] at hblank
            exact ⟨raw, ⟨hfound, isEmpty_trim_eq_false_iff.1 hblank⟩, rfl⟩
  · rintro ⟨raw, h, rfl⟩
    simp only [value?, h.found, h.isEmpty_trim, Bool.false_eq_true, if_false]

/-- There is no value exactly if nothing is given. -/
theorem value?_eq_none_iff : value? lookup name = none ↔ ∀ raw, ¬ Gives lookup name raw := by
  rw [Option.eq_none_iff_forall_ne_some]
  constructor
  · intro h raw hgives
    exact h _ (value?_eq_some_iff.2 ⟨raw, hgives, rfl⟩)
  · intro h value hvalue
    obtain ⟨raw, hgives, -⟩ := value?_eq_some_iff.1 hvalue
    exact h raw hgives

theorem value?_eq_iff : value? lookup name = option ↔ OptionIs lookup name option := by
  constructor
  · rintro rfl
    cases hvalue : value? lookup name with
    | none => exact .absent (value?_eq_none_iff.1 hvalue)
    | some value =>
        obtain ⟨raw, h, rfl⟩ := value?_eq_some_iff.1 hvalue
        exact .given h
  · rintro (h | h)
    · exact value?_eq_none_iff.2 h
    · exact value?_eq_some_iff.2 ⟨_, h, rfl⟩

end Texts

/-! ### Words for switches -/

/-- A letter is its lower case, or the upper case of that. -/
theorem isLetter_toLower (c : Char) : IsLetter c c.toLower := by
  have hletters : ∀ n < 26, Char.ofNat (n + 65) = (Char.ofNat (n + 65)).toLower.toUpper := by
    decide
  by_cases hupper : 65 ≤ c.toNat ∧ c.toNat ≤ 90
  · have hletter := hletters (c.toNat - 65) (by omega)
    rw [Nat.sub_add_cancel hupper.1, Char.ofNat_toNat] at hletter
    exact .inr hletter
  · have hkept : c.toLower = c := dif_neg fun ⟨hlow, hhigh⟩ => hupper ⟨hlow, hhigh⟩
    exact .inl hkept.symm

/-- **The words for a switch**, in any case, and no others are understood. -/
theorem switch?_eq_some_iff {on : Bool} {word : String} :
    switch? word = some on ↔ SpellsSwitch on word := by
  refine ⟨fun h => ?_, switch?_of_spellsSwitch⟩
  have hplain : word.toLower ∈ switchWords on := by
    unfold switch? at h
    dsimp only at h
    split at h
    · next hmem =>
        cases h
        exact hmem
    · split at h
      · next hmem =>
          cases h
          exact hmem
      · cases h
  have hchars : word.toLower.toList = word.toList.map Char.toLower := String.toList_map ..
  refine ⟨_, hplain, ?_⟩
  rw [hchars, List.forall₂_map_right_iff, List.forall₂_same]
  exact fun c _ => isLetter_toLower c

/-! ### Single settings -/

section Items

variable {lookup : String → Option String} {name value : String} {on : Bool} {e : SettingsError}

theorem readToken_eq_ok_iff : readToken lookup = .ok value ↔ TokenIs lookup value := by
  constructor
  · intro h
    obtain ⟨-, hown⟩ := isProper_of_readToken h
    unfold readToken at h
    split at h
    · cases h
    · next token htoken =>
        split at h
        · cases h
        · cases h
          obtain ⟨raw, hraw, rfl⟩ := value?_eq_some_iff.1 htoken
          exact .given hraw hown
  · rintro ⟨h, hown⟩
    rw [readToken, value?_eq_some_iff.2 ⟨_, h, rfl⟩]
    exact if_neg hown

/-- A token that cannot be read is missing, or is that of the example file. -/
theorem readToken_eq_error_iff :
    readToken lookup = .error e ↔
      e = .missing "DISCORD_AUTH_TOKEN" ∧ (∀ raw, ¬ Gives lookup "DISCORD_AUTH_TOKEN" raw) ∨
        e = .placeholder "DISCORD_AUTH_TOKEN" ∧ ∃ raw, Gives lookup "DISCORD_AUTH_TOKEN" raw ∧
          trim raw = "YOUR_BOT_TOKEN_HERE" := by
  constructor
  · intro h
    unfold readToken at h
    split at h
    · next htoken =>
        cases h
        exact .inl ⟨rfl, value?_eq_none_iff.1 htoken⟩
    · next token htoken =>
        split at h
        · next hexample =>
            cases h
            obtain ⟨raw, hraw, rfl⟩ := value?_eq_some_iff.1 htoken
            exact .inr ⟨rfl, raw, hraw, hexample⟩
        · cases h
  · rintro (⟨rfl, h⟩ | ⟨rfl, raw, h, hexample⟩)
    · rw [readToken, value?_eq_none_iff.2 h]
    · rw [readToken, value?_eq_some_iff.2 ⟨raw, h, rfl⟩]
      exact if_pos hexample

theorem readPrefix_eq_ok_iff : readPrefix lookup = .ok value ↔ PrefixIs lookup value := by
  constructor
  · intro h
    unfold readPrefix at h
    split at h
    · next hnone =>
        cases h
        exact .default fun raw hraw => by rw [hnone] at hraw; cases hraw
    · next raw hraw =>
        split at h
        · next hempty =>
            cases h
            refine .default fun raw' hraw' => ?_
            cases hraw.symm.trans hraw'
            exact String.isEmpty_iff.1 hempty
        · split at h
          · cases h
          · next hblank =>
              cases h
              rw [Bool.not_eq_true] at hblank
              exact .given ⟨hraw, isEmpty_trim_eq_false_iff.1 hblank⟩
  · rintro (h | @⟨raw, h⟩)
    · unfold readPrefix
      split
      · rfl
      · next raw hraw => rw [h raw hraw]; rfl
    · have hnonempty : raw.isEmpty = false := by
        rw [Bool.eq_false_iff]
        intro hempty
        obtain ⟨c, hc, -⟩ := h.visible
        rw [String.isEmpty_iff.1 hempty] at hc
        cases hc
      simp only [readPrefix, h.found, hnonempty, h.isEmpty_trim, Bool.false_eq_true, if_false]

/-- A prefix that cannot be read is blank without being empty. -/
theorem readPrefix_eq_error_iff :
    readPrefix lookup = .error e ↔
      ∃ raw, e = .invalidValue "COMMAND_PREFIX" raw ∧ lookup "COMMAND_PREFIX" = some raw ∧
        raw ≠ "" ∧ ∀ c ∈ raw.toList, isSpace c = true := by
  constructor
  · intro h
    unfold readPrefix at h
    split at h
    · cases h
    · next raw hraw =>
        split at h
        · cases h
        · next hnonempty =>
            split at h
            · next hblank =>
                cases h
                refine ⟨raw, rfl, hraw, by simpa using hnonempty, ?_⟩
                simpa [Text.isEmpty_trim, Text.isBlank] using hblank
            · cases h
  · rintro ⟨raw, rfl, hraw, hnonempty, hblank⟩
    have hempty : raw.isEmpty = false := by simpa using hnonempty
    have htrim : (trim raw).isEmpty = true := by
      simpa [Text.isEmpty_trim, Text.isBlank] using hblank
    simp only [readPrefix, hraw, hempty, htrim, Bool.false_eq_true, if_false, if_true]

theorem readSwitch_eq_ok_iff : readSwitch lookup name = .ok on ↔ SwitchIs lookup name on := by
  constructor
  · intro h
    unfold readSwitch at h
    split at h
    · next hnone =>
        cases h
        exact .default (value?_eq_none_iff.1 hnone)
    · next value hvalue =>
        obtain ⟨raw, hraw, rfl⟩ := value?_eq_some_iff.1 hvalue
        split at h
        · next hword =>
            cases h
            exact .given hraw (switch?_eq_some_iff.1 hword)
        · cases h
  · rintro (h | @⟨raw, _, h, hword⟩)
    · rw [readSwitch, value?_eq_none_iff.2 h]
    · rw [readSwitch, value?_eq_some_iff.2 ⟨raw, h, rfl⟩]
      dsimp only
      rw [switch?_of_spellsSwitch hword]

/-- A switch that cannot be read is garbled. -/
theorem readSwitch_eq_error_iff :
    readSwitch lookup name = .error e ↔
      ∃ raw, e = .invalidValue name (trim raw) ∧ Garbles lookup name raw := by
  constructor
  · intro h
    unfold readSwitch at h
    split at h
    · cases h
    · next value hvalue =>
        obtain ⟨raw, hraw, rfl⟩ := value?_eq_some_iff.1 hvalue
        split at h
        · cases h
        · next hnone =>
            cases h
            refine ⟨raw, rfl, hraw, fun on hword => ?_⟩
            rw [switch?_of_spellsSwitch hword] at hnone
            cases hnone
  · rintro ⟨raw, rfl, h⟩
    have hnone : switch? (trim raw) = none := by
      rw [Option.eq_none_iff_forall_ne_some]
      exact fun on hword => h.noWord on (switch?_eq_some_iff.1 hword)
    rw [readSwitch, value?_eq_some_iff.2 ⟨raw, h.toGives, rfl⟩]
    dsimp only
    rw [hnone]

end Items

/-! ### All settings -/

section All

variable {lookup : String → Option String} {s : Settings} {e : SettingsError}

/-- Settings are read exactly if they are what the lookup says. -/
theorem reads_iff : Reads lookup s ↔ Configures lookup s := by
  have hassets : (value? lookup "ASSETS_DIR").getD defaultAssetsDir = s.assetsDir ↔
      ∃ directory, OptionIs lookup "ASSETS_DIR" directory ∧
        s.assetsDir = directory.getD "assets" := by
    constructor
    · intro h
      exact ⟨_, value?_eq_iff.1 rfl, h.symm⟩
    · rintro ⟨directory, h, hdirectory⟩
      rw [value?_eq_iff.2 h]
      exact hdirectory.symm
  constructor
  · rintro ⟨htoken, hlead, hdebug, hsilly, hurl, hpassword, hkey, hdirectory⟩
    exact ⟨readToken_eq_ok_iff.1 htoken, readPrefix_eq_ok_iff.1 hlead,
      readSwitch_eq_ok_iff.1 hdebug, readSwitch_eq_ok_iff.1 hsilly, value?_eq_iff.1 hurl,
      value?_eq_iff.1 hpassword, value?_eq_iff.1 hkey, hassets.1 hdirectory⟩
  · rintro ⟨htoken, hlead, hdebug, hsilly, hurl, hpassword, hkey, hdirectory⟩
    exact ⟨readToken_eq_ok_iff.2 htoken, readPrefix_eq_ok_iff.2 hlead,
      readSwitch_eq_ok_iff.2 hdebug, readSwitch_eq_ok_iff.2 hsilly, value?_eq_iff.2 hurl,
      value?_eq_iff.2 hpassword, value?_eq_iff.2 hkey, hassets.2 hdirectory⟩

theorem bind_eq_error_iff {ε α β : Type} {x : Except ε α} {f : α → Except ε β} {e : ε} :
    x >>= f = .error e ↔ x = .error e ∨ ∃ a, x = .ok a ∧ f a = .error e := by
  cases x with
  | error e' => simp [bind, Except.bind]
  | ok a => simp [bind, Except.bind]

/-- **The first offence is reported.** -/
theorem ofLookup_eq_error_iff : ofLookup lookup = .error e ↔ Refuses lookup e := by
  unfold ofLookup
  simp only [bind_eq_error_iff, readToken_eq_error_iff, readToken_eq_ok_iff,
    readPrefix_eq_error_iff, readPrefix_eq_ok_iff, readSwitch_eq_error_iff, readSwitch_eq_ok_iff]
  constructor
  · rintro ((⟨rfl, h⟩ | ⟨rfl, raw, h, hexample⟩) | ⟨token, htoken, h⟩)
    · exact .missing h
    · exact .placeholder h hexample
    rcases h with ⟨raw, rfl, h, hnonempty, hblank⟩ | ⟨lead, hlead, h⟩
    · exact .blankPrefix htoken h hnonempty hblank
    rcases h with ⟨raw, rfl, h⟩ | ⟨debug, hdebug, h⟩
    · exact .debug htoken hlead h
    rcases h with ⟨raw, rfl, h⟩ | ⟨silly, hsilly, h⟩
    · exact .silly htoken hlead hdebug h
    · cases h
  · rintro (h | ⟨h, hexample⟩ | ⟨htoken, h, hnonempty, hblank⟩ | ⟨htoken, hlead, h⟩ |
      ⟨htoken, hlead, hdebug, h⟩)
    · exact .inl (.inl ⟨rfl, h⟩)
    · exact .inl (.inr ⟨rfl, _, h, hexample⟩)
    · exact .inr ⟨_, htoken, .inl ⟨_, rfl, h, hnonempty, hblank⟩⟩
    · exact .inr ⟨_, htoken, .inr ⟨_, hlead, .inl ⟨_, rfl, h⟩⟩⟩
    · exact .inr ⟨_, htoken, .inr ⟨_, hlead, .inr ⟨_, hdebug, .inl ⟨_, rfl, h⟩⟩⟩⟩

/-- What was read can be written down as it is. -/
theorem spells_lookup (s : Settings) (name : String) :
    Spells s name ((s.lookup name).getD "") := by
  have hswitch : ∀ on : Bool, SpellsSwitch on (if on then "true" else "false") := by
    intro on
    rw [← switch?_eq_some_iff]
    revert on
    decide +kernel
  unfold Spells
  split
  · next h => rw [h]; exact hswitch s.debug
  · split
    · next h => rw [h]; exact hswitch s.sillyReplies
    · rfl

/-- Records are kept exactly if an address of the store is given. -/
theorem keepsRecords_iff (h : ofLookup lookup = .ok s) :
    s.keepsRecords = true ↔ ∃ raw, Gives lookup "REDIS_URL" raw := by
  rw [keepsRecords, ← (ofLookup_eq_ok_iff.1 h).redisUrl, Option.isSome_iff_exists]
  constructor
  · rintro ⟨value, hvalue⟩
    obtain ⟨raw, hraw, -⟩ := value?_eq_some_iff.1 hvalue
    exact ⟨raw, hraw⟩
  · rintro ⟨raw, hraw⟩
    exact ⟨_, value?_eq_some_iff.2 ⟨raw, hraw, rfl⟩⟩

/-- **Which settings are accepted, and which offence is reported.**  Settings are accepted exactly
if the token, the prefix and both switches can be read; they are then what the lookup says, and
otherwise the first offence is reported.  Accepted settings have no blank value and no outer white
space, keep records exactly if an address of the store is given, and are accepted again as they
are. -/
theorem ofLookup_accepts_iff (lookup : String → Option String) :
    ((∃ s, ofLookup lookup = .ok s) ↔
      (∃ token, TokenIs lookup token) ∧ (∃ lead, PrefixIs lookup lead) ∧
        (∃ on, SwitchIs lookup "DEBUG_OUTPUT" on) ∧
          ∃ on, SwitchIs lookup "SILLY_COMMANDS" on) ∧
    (∀ e, ofLookup lookup = .error e ↔ Refuses lookup e) ∧
    (∀ s, ofLookup lookup = .ok s ↔ Configures lookup s) ∧
    ∀ s, ofLookup lookup = .ok s →
      IsUsable s ∧ (s.keepsRecords = true ↔ ∃ raw, Gives lookup "REDIS_URL" raw) ∧
        ofLookup s.lookup = .ok s := by
  have haccepts : ∀ s, ofLookup lookup = .ok s ↔ Configures lookup s := fun s =>
    ofLookup_eq_ok_iff.trans reads_iff
  refine ⟨?_, fun e => ofLookup_eq_error_iff, haccepts, ?_⟩
  · constructor
    · rintro ⟨s, h⟩
      obtain ⟨htoken, hlead, hdebug, hsilly, -⟩ := (haccepts s).1 h
      exact ⟨⟨_, htoken⟩, ⟨_, hlead⟩, ⟨_, hdebug⟩, _, hsilly⟩
    · -- The other settings can always be read.
      rintro ⟨⟨token, htoken⟩, ⟨lead, hlead⟩, ⟨debug, hdebug⟩, silly, hsilly⟩
      exact ⟨⟨token, lead, debug, silly, _, _, _, _⟩, (haccepts _).2
        ⟨htoken, hlead, hdebug, hsilly, value?_eq_iff.1 rfl, value?_eq_iff.1 rfl,
          value?_eq_iff.1 rfl, _, value?_eq_iff.1 rfl, rfl⟩⟩
  · intro s h
    have husable := isUsable_of_ofLookup h
    exact ⟨husable, keepsRecords_iff h, ofLookup_of_spells husable fun name _ => spells_lookup s name⟩

end All

/-- Values with white space of several kinds around them. -/
def paddedValues (name : String) : Option String :=
  [("DISCORD_AUTH_TOKEN", "  a b\u3000"), ("COMMAND_PREFIX", "\t! "), ("DEBUG_OUTPUT", "oFF\r"),
    ("SILLY_COMMANDS", " "), ("REDIS_URL", "\u00a0db:1"), ("DERPI_API_KEY", "")].lookup name

/-- The same with a prefix that is blank and a word for no switch. -/
def garbledValues (name : String) : Option String :=
  if name = "COMMAND_PREFIX" then some " \t" else if name = "DEBUG_OUTPUT" then some "maybe"
  else paddedValues name

theorem ofLookup_accepts_iff_padded :
    ∃ s, ofLookup paddedValues = .ok s ∧
      s = ⟨"a b", "!", false, true, some "db:1", none, none, "assets"⟩ ∧ IsUsable s ∧
      ofLookup s.lookup = .ok s ∧
      Refuses garbledValues (.invalidValue "COMMAND_PREFIX" " \t") := by
  have hpadded : ofLookup paddedValues =
      .ok ⟨"a b", "!", false, true, some "db:1", none, none, "assets"⟩ := by decide +kernel
  have hgarbled : ofLookup garbledValues =
      .error (.invalidValue "COMMAND_PREFIX" " \t") := by decide +kernel
  obtain ⟨-, -, -, hnormal⟩ := ofLookup_accepts_iff paddedValues
  obtain ⟨-, hrefuses, -, -⟩ := ofLookup_accepts_iff garbledValues
  obtain ⟨husable, -, hagain⟩ := hnormal _ hpadded
  exact ⟨_, hpadded, rfl, husable, hagain, (hrefuses _).1 hgarbled⟩

end CommandBot.Settings
