/-
**The locator of a server is read as it is written.**

The locator of a server has credentials with escapes, a host of letters, digits, dots and hyphens,
and maybe a port and a path.  No mark that divides it occurs within a part, so that every part is
found where it was put.

Main definitions:

* `CommandBot.Redis.Url.IsHost` — the hosts;
* `CommandBot.Redis.Url.serverText` — **the locator of a server**, without its scheme.

Main results:

* `CommandBot.Redis.Url.readHostPort?_hostPort` — host and port are read as they are written;
* `CommandBot.Redis.Url.readAuthority?_authorityText` — so are the credentials, whatever follows;
* `CommandBot.Redis.Url.read?_serverText` — **the locator is read as it is written.**
-/

import CommandBot.Proofs.Text.Decimal
import CommandBot.Proofs.Text.Percent
import CommandBot.Redis.Connection
import Mathlib.Data.List.TakeWhile

set_option relaxedAutoImplicit false
set_option autoImplicit false

namespace CommandBot.Redis.Url

open Text (splitAtFirst? splitAtFirst?_eq_some_iff)
open Text.Percent (IsUndivided isSafe isSafe_of_isDigit)

/-! ### Marks and parts -/

section Parts

variable {c mark : Char} {s t : List Char}

theorem dropWhile_of_forall {p : Char → Bool} (h : ∀ c ∈ s, p c = false) : s.dropWhile p = s := by
  cases s with
  | nil => rfl
  | cons c rest => rw [List.dropWhile_cons_of_neg (by simp [h c])]

/-- All characters of a text count if none of them is a space or a control character. -/
theorem significant_of_forall (h : ∀ c ∈ s, 32 < c.toNat) : significant s = s := by
  have houter : ∀ c ∈ s, isOuter c = false := by
    intro c hc
    have hlow := h c hc
    simp only [isOuter, Char.le_def, UInt32.le_iff_toNat_le, decide_eq_false_iff_not, not_le]
    exact hlow
  have hignored : ∀ c ∈ s, (!isIgnored c) = true := by
    intro c hc
    have hlow := h c hc
    simp only [isIgnored, Bool.not_eq_true', Bool.or_eq_false_iff, beq_eq_false_iff_ne]
    refine ⟨⟨?_, ?_⟩, ?_⟩
    all_goals
      rintro rfl
      exact absurd hlow (by decide)
  rw [significant, dropWhile_of_forall houter,
    dropWhile_of_forall fun c hc => houter c (List.mem_reverse.1 hc), List.reverse_reverse,
    List.filter_eq_self.2 hignored]

theorem splitAtLast?_append (h : mark ∉ t) : splitAtLast? mark (s ++ mark :: t) = some (s, t) := by
  have hsplit : splitAtFirst? mark (s ++ mark :: t).reverse = some (t.reverse, s.reverse) := by
    rw [splitAtFirst?_eq_some_iff]
    simpa using h
  rw [splitAtLast?, hsplit, Option.map_some, List.reverse_reverse, List.reverse_reverse]

theorem splitHost_append (hcolon : ':' ∉ s) (hbracket : '[' ∉ s) (t : List Char) :
    splitHost false (s ++ t) = (s ++ (splitHost false t).1, (splitHost false t).2) := by
  induction s with
  | nil => rfl
  | cons c s ih =>
      rw [List.mem_cons, not_or] at hcolon hbracket
      have hopen : (decide (c = '[') || (false && c != ']')) = false := by
        simp [Ne.symm hbracket.1]
      rw [List.cons_append, splitHost, if_neg (fun h => hcolon.1 h.1.symm), hopen,
        ih hcolon.2 hbracket.2]
      rfl

end Parts

/-! ### Hosts and ports -/

section Hosts

variable {host : List Char} {c : Char}

/-- A letter, a digit, a dot or a hyphen. -/
def isHostChar (c : Char) : Bool := c.isAlphanum || c == '.' || c == '-'

/-- **The hosts** that are written as they are. -/
structure IsHost (host : List Char) : Prop where
  nonempty : host ≠ []
  chars : ∀ c ∈ host, isHostChar c = true

instance (host : List Char) : Decidable (IsHost host) :=
  decidable_of_iff (host ≠ [] ∧ host.all isHostChar = true)
    ⟨fun h => ⟨h.1, List.all_eq_true.1 h.2⟩, fun h => ⟨h.nonempty, List.all_eq_true.2 h.chars⟩⟩

theorem isSafe_of_isHostChar (h : isHostChar c = true) : isSafe c = true := by
  rw [isHostChar, Bool.or_eq_true, Bool.or_eq_true, beq_iff_eq, beq_iff_eq] at h
  rcases h with (h | rfl) | rfl
  · rw [isSafe, h]
    rfl
  · decide
  · decide

theorem IsHost.isUndivided (h : IsHost host) : IsUndivided host :=
  fun c hc => .inl (isSafe_of_isHostChar (h.chars c hc))

theorem isForbidden_of_isHostChar (h : isHostChar c = true) : isForbidden c = false := by
  have hall : ("\x00\t\n\r #/:<>?@[\\]^|".toList.all fun mark => !isHostChar mark) = true := by
    decide
  rw [isForbidden, Bool.eq_false_iff, ne_eq, List.contains_iff_mem]
  intro hmem
  have hmark := List.all_eq_true.1 hall c hmem
  rw [h] at hmark
  cases hmark

theorem isPrintable_ofNat (h : 32 < c.toNat ∧ c.toNat < 127) :
    isPrintable (UInt8.ofNat c.toNat) = true := by
  have hbyte : (UInt8.ofNat c.toNat).toNat = c.toNat := by
    rw [UInt8.toNat_ofNat', Nat.mod_eq_of_lt (by omega)]
  simp only [isPrintable, Bool.and_eq_true, decide_eq_true_eq, UInt8.le_iff_toNat_le, hbyte]
  exact ⟨Nat.le_of_lt h.1, Nat.le_of_lt_succ h.2⟩

/-- **A host is shown as it is written.** -/
theorem readHost?_of_isHost (h : IsHost host) : readHost? host = some host := by
  unfold readHost?
  split
  · exact absurd (h.chars '[' List.mem_cons_self) (by decide)
  · have hnone : host.any isForbidden = false := by
      rw [List.any_eq_false]
      exact fun c hc => by simp [isForbidden_of_isHostChar (h.chars c hc)]
    have hshown : Text.Percent.encode isPrintable (Text.Utf8.bytes host) = host := by
      refine Text.Percent.encode_bytes fun c hc => ?_
      have hbounds := h.isUndivided.bounds c hc
      exact ⟨by omega, isPrintable_ofNat hbounds⟩
    rw [hnone, hshown]
    rfl

/-- The port of a locator, if it has one. -/
def portText : Option Nat → List Char
  | none => []
  | some port => ':' :: port.repr.toList

theorem readPort?_repr {port : Nat} (h : port < 65536) :
    readPort? port.repr.toList = some (some port, []) := by
  have hdigits : ∀ c ∈ port.repr.toList, c.isDigit = true :=
    fun c => Text.Decimal.isDigit_of_mem_repr
  rw [readPort?, List.takeWhile_eq_self_iff.2 hdigits, List.dropWhile_eq_nil_iff.2 hdigits,
    Text.Decimal.readDigits?_repr]
  dsimp only
  rw [if_pos h]
  rfl

/-- **Host and port are read as they are written.** -/
theorem readHostPort?_hostPort {port : Option Nat} (hhost : IsHost host)
    (hport : ∀ n ∈ port, n < 65536) :
    readHostPort? (host ++ portText port) = some (host, port, []) := by
  have hempty : host.isEmpty = false := by simpa using hhost.nonempty
  rw [readHostPort?, splitHost_append (hhost.isUndivided.not_mem (by decide))
    (hhost.isUndivided.not_mem (by decide))]
  cases port with
  | none =>
      have hsplit : splitHost false (portText none) = ([], none) := rfl
      rw [hsplit, List.append_nil]
      dsimp only
      rw [readHost?_of_isHost hhost]
      rfl
  | some n =>
      have hsplit : splitHost false (portText (some n)) = ([], some n.repr.toList) := rfl
      rw [hsplit, List.append_nil]
      dsimp only
      rw [readHost?_of_isHost hhost, readPort?_repr (hport n rfl)]
      dsimp only
      rw [hempty]
      rfl

end Hosts

/-! ### Credentials, host and port -/

section Authorities

variable {user password host rest : List Char} {port : Option Nat} {c : Char}

theorem endsAuthority_of_isUndivided {s : List Char} (h : IsUndivided s) :
    ∀ c ∈ s, (!endsAuthority c) = true := by
  intro c hc
  rw [Bool.not_eq_true', Bool.eq_false_iff]
  intro hends
  rw [endsAuthority, Bool.or_eq_true, Bool.or_eq_true, beq_iff_eq, beq_iff_eq, beq_iff_eq] at hends
  rcases hends with (rfl | rfl) | rfl
  · exact h.not_mem (by decide) hc
  · exact h.not_mem (by decide) hc
  · exact h.not_mem (by decide) hc

/-- The credentials, the host and the port of a locator. -/
def authorityText (user password host : List Char) (port : Option Nat) : List Char :=
  (user ++ ':' :: password) ++ '@' :: (host ++ portText port)

/-- The parts of a locator that can be told from each other. -/
structure IsServer (user password host : List Char) (port : Option Nat) : Prop where
  user : IsUndivided user
  password : IsUndivided password
  host : IsHost host
  port : ∀ n ∈ port, n < 65536

theorem isUndivided_repr (n : Nat) : IsUndivided n.repr.toList :=
  fun _ hc => .inl (isSafe_of_isDigit (Text.Decimal.isDigit_of_mem_repr hc))

theorem IsServer.forall_mem_authorityText {p : Char → Prop} (h : IsServer user password host port)
    (hpart : ∀ s : List Char, IsUndivided s → ∀ c ∈ s, p c) (hcolon : p ':') (hat : p '@') :
    ∀ c ∈ authorityText user password host port, p c := by
  have hportText : ∀ c ∈ portText port, p c := by
    cases port with
    | none => exact nofun
    | some n => exact List.forall_mem_cons.2 ⟨hcolon, hpart _ (isUndivided_repr n)⟩
  simp only [authorityText, List.forall_mem_append, List.forall_mem_cons]
  exact ⟨⟨hpart _ h.user, hcolon, hpart _ h.password⟩, hat, hpart _ h.host.isUndivided, hportText⟩

/-- **Credentials, host and port are read as they are written**, whatever path follows. -/
theorem readAuthority?_authorityText (h : IsServer user password host port)
    (hrest : ∀ c ∈ rest.head?, endsAuthority c = true) :
    readAuthority? (authorityText user password host port ++ rest) =
      some (⟨user, password, host, port⟩, rest) := by
  have hinside : ∀ c ∈ authorityText user password host port, (!endsAuthority c) = true :=
    h.forall_mem_authorityText (fun s hs => endsAuthority_of_isUndivided hs) (by decide) (by decide)
  have htake : rest.takeWhile (fun c => !endsAuthority c) = [] := by
    cases rest with
    | nil => rfl
    | cons c rest => rw [List.takeWhile_cons_of_neg (by simp [hrest c rfl])]
  have hdrop : rest.dropWhile (fun c => !endsAuthority c) = rest := by
    cases rest with
    | nil => rfl
    | cons c rest => rw [List.dropWhile_cons_of_neg (by simp [hrest c rfl])]
  -- The last of its marks parts the credentials from the host, so none may follow it.
  have hat : '@' ∉ host ++ portText port := by
    rw [List.mem_append, not_or]
    refine ⟨h.host.isUndivided.not_mem (by decide), ?_⟩
    cases port with
    | none => exact List.not_mem_nil
    | some n =>
        rw [portText, List.mem_cons, not_or]
        exact ⟨by decide, (isUndivided_repr n).not_mem (by decide)⟩
  have hcredentials : readCredentials (user ++ ':' :: password) = (user, password) := by
    rw [readCredentials,
      splitAtFirst?_eq_some_iff.2 ⟨rfl, h.user.not_mem (by decide)⟩]
  have hsome : (user ++ ':' :: password).isEmpty = false := by simp
  have hhost : host.isEmpty = false := by simpa using h.host.nonempty
  rw [readAuthority?, List.takeWhile_append_of_pos hinside, List.dropWhile_append_of_pos hinside,
    htake, hdrop, List.append_nil]
  dsimp only
  rw [authorityText, splitAtLast?_append hat]
  dsimp only
  rw [hsome, makeAuthority?, readHostPort?_hostPort h.host h.port]
  dsimp only
  rw [hcredentials, hhost]
  rfl

end Authorities

/-! ### The path -/

section Paths

variable {s : List Char} {database : Option Int} {c : Char}

theorem readDot?_of_forall (h : ∀ c ∈ s, c ≠ '.' ∧ c ≠ '%') : readDot? s = none := by
  unfold readDot?
  split
  · exact absurd rfl (h '.' List.mem_cons_self).1
  · exact absurd rfl (h '%' List.mem_cons_self).2
  · rfl

/-- A path without further slashes and without dots is as it is written. -/
theorem resolveDots_of_forall (hslash : '/' ∉ s) (h : ∀ c ∈ s, c ≠ '.' ∧ c ≠ '%') :
    resolveDots s = s := by
  have hdot : isDot s = false := by
    rw [isDot, readDot?_of_forall h]
    rfl
  have hdouble : isDoubleDot s = false := by
    rw [isDoubleDot, readDot?_of_forall h]
  rw [resolveDots, List.splitOn_eq_singleton hslash, resolve, hdot, hdouble]
  exact List.intercalate_singleton

/-- The path of a locator that names a database, if it names one. -/
def pathText : Option Int → List Char
  | none => []
  | some database => '/' :: (toString database).toList

theorem isUndivided_toString (n : Int) : IsUndivided (toString n).toList := by
  intro c hc
  rcases Text.Decimal.isDigit_or_of_mem_toString hc with hdigit | rfl
  · exact .inl (isSafe_of_isDigit hdigit)
  · exact .inl (by decide)

theorem hostedPath_pathText (database : Option Int) :
    hostedPath (pathText database) = pathText database := by
  cases database with
  | none => rfl
  | some n =>
      have hplain : ∀ c ∈ (toString n).toList, c ≠ '.' ∧ c ≠ '%' := by
        intro c hc
        rcases Text.Decimal.isDigit_or_of_mem_toString hc with hdigit | rfl
        · refine ⟨?_, ?_⟩
          all_goals
            rintro rfl
            exact absurd hdigit (by decide)
        · decide
      rw [pathText, hostedPath,
        resolveDots_of_forall ((isUndivided_toString n).not_mem (by decide)) hplain]

theorem forall_mem_pathText {p : Char → Prop}
    (hpart : ∀ s : List Char, IsUndivided s → ∀ c ∈ s, p c) (hslash : p '/') :
    ∀ c ∈ pathText database, p c := by
  cases database with
  | none => exact nofun
  | some n => exact List.forall_mem_cons.2 ⟨hslash, hpart _ (isUndivided_toString n)⟩

theorem endsAuthority_pathText : ∀ c ∈ (pathText database).head?, endsAuthority c = true := by
  cases database with
  | none => exact nofun
  | some n =>
      rintro c ⟨⟩
      rfl

theorem endsPath_of_isUndivided (h : IsUndivided s) : ∀ c ∈ s, (!endsPath c) = true := by
  intro c hc
  have hends := endsAuthority_of_isUndivided h c hc
  simp only [endsAuthority, Bool.not_eq_true', Bool.or_eq_false_iff] at hends
  simp only [endsPath, Bool.not_eq_true', Bool.or_eq_false_iff]
  exact ⟨hends.1.2, hends.2⟩

end Paths

/-! ### Locators -/

section Locators

variable {user password host : List Char} {port : Option Nat} {database : Option Int}

/-- **The locator of a server**, without its scheme. -/
def serverText (user password host : List Char) (port : Option Nat) (database : Option Int) :
    List Char :=
  authorityText user password host port ++ pathText database

theorem readAfterScheme?_serverText (h : IsServer user password host port) (scheme : List Char) :
    readAfterScheme? scheme ('/' :: '/' :: serverText user password host port database) =
      some ⟨scheme, ⟨user, password, host, port⟩, pathText database, none⟩ := by
  have hpath : ∀ c ∈ pathText database, (!endsPath c) = true :=
    forall_mem_pathText (fun s hs => endsPath_of_isUndivided hs) (by decide)
  rw [readAfterScheme?, serverText, readAuthority?_authorityText h endsAuthority_pathText,
    Option.map_some]
  dsimp only
  rw [make, List.takeWhile_eq_self_iff.2 hpath, List.dropWhile_eq_nil_iff.2 hpath,
    hostedPath_pathText]
  rfl

/-- **The locator of a server is read as it is written.** -/
theorem read?_serverText (h : IsServer user password host port) :
    read? ("redis://".toList ++ serverText user password host port database) =
      some ⟨"redis".toList, ⟨user, password, host, port⟩, pathText database, none⟩ := by
  have hscheme : "redis://".toList = "redis".toList ++ [':', '/', '/'] := rfl
  have hshown : ∀ c ∈ "redis://".toList ++ serverText user password host port database,
      32 < c.toNat := by
    have hpart : ∀ s : List Char, IsUndivided s → ∀ c ∈ s, 32 < c.toNat :=
      fun s hs c hc => (hs.bounds c hc).1
    rw [serverText, List.forall_mem_append, List.forall_mem_append]
    exact ⟨by simp, h.forall_mem_authorityText hpart (by decide) (by decide),
      forall_mem_pathText hpart (by decide)⟩
  have hsplit :
      splitAtFirst? ':' ("redis://".toList ++ serverText user password host port database) =
        some ("redis".toList, '/' :: '/' :: serverText user password host port database) := by
    rw [splitAtFirst?_eq_some_iff, hscheme]
    exact ⟨by simp, by decide⟩
  have hread : readScheme? ("redis://".toList ++ serverText user password host port database) =
      some ("redis".toList, '/' :: '/' :: serverText user password host port database) := by
    rw [readScheme?, hsplit]
    rfl
  rw [read?, significant_of_forall hshown, hread]
  exact readAfterScheme?_serverText h _

end Locators

end CommandBot.Redis.Url
