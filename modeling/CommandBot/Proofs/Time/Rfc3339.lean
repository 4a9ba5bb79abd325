/-
**Written moments read back.**

Writing a moment shows its year on four digits if it can.  The text is then read part by part: each
number stands on so many places that nothing else can be read there, and the fraction ends where the
offset begins.  What is read is the date and the time of day on the clock of UTC, which lead back to
the second.

Main definitions:

* `CommandBot.Timestamp.HasPlainYear` — a moment whose year four digits show;
* `CommandBot.Timestamp.leapSecond` — a moment within a leap second.

Main results:

* `CommandBot.Timestamp.readOptionalFraction?_fractionText` — a fraction is read to the nanosecond;
* `CommandBot.Timestamp.readChars?_textChars` — the parts of a text are read one by one;
* `CommandBot.Timestamp.ofLocal?_parts` — **the parts of a moment make the moment**, leap seconds
  included;
* `CommandBot.Timestamp.read?_text` — **a written moment reads as itself.**
-/

import CommandBot.Proofs.Text.Decimal
import CommandBot.Proofs.Time.Calendar
import CommandBot.Time.Rfc3339

set_option relaxedAutoImplicit false
set_option autoImplicit false

namespace CommandBot.Timestamp

open Text (afterStart?)
open Text.Decimal

/-! ### Numbers -/

/-- As many digits are read as there are places. -/
theorem readPlaces?_append {digits : List Char} (h : ∀ c ∈ digits, c.isDigit = true) (value : Nat)
    (rest : List Char) : readPlaces? digits.length value (digits ++ rest) =
      some (Nat.ofDigitChars 10 digits value, rest) := by
  induction digits generalizing value with
  | nil => rfl
  | cons c digits ih =>
      have hc : c.isDigit = true := h c List.mem_cons_self
      rw [List.length_cons, List.cons_append, readPlaces?, digit?_of_isDigit hc]
      dsimp only
      rw [ih fun d hd => h d (List.mem_cons_of_mem c hd), Nat.ofDigitChars_cons, Nat.mul_comm]

theorem readPlaces?_padded {places n : Nat} (hplaces : 0 < places) (h : n < Nat.pow 10 places)
    (rest : List Char) : readPlaces? places 0 (padded places n ++ rest) = some (n, rest) := by
  have hread := readPlaces?_append
    (fun c (hc : c ∈ padded places n) => isDigit_of_mem_padded hc) 0 rest
  rwa [length_padded hplaces h, ofDigitChars_padded] at hread

/-! ### The fraction -/

/-- The digits of a fraction are read up to the first character that is none. -/
theorem readFraction_append {digits : List Char} (h : ∀ c ∈ digits, c.isDigit = true)
    {places : Nat} (hplaces : digits.length ≤ places) (value : Nat) {c : Char}
    (hc : digit? c = none) (rest : List Char) :
    readFraction places value (digits ++ c :: rest) =
      (Nat.ofDigitChars 10 digits value * Nat.pow 10 (places - digits.length), c :: rest) := by
  induction digits generalizing places value with
  | nil =>
      unfold readFraction
      simp only [List.nil_append, hc, Nat.ofDigitChars_nil, List.length_nil, Nat.sub_zero]
  | cons d digits ih =>
      cases places with
      | zero => exact absurd hplaces (Nat.not_succ_le_zero _)
      | succ places =>
          unfold readFraction
          simp only [List.cons_append, digit?_of_isDigit (h d List.mem_cons_self)]
          rw [ih (fun e he => h e (List.mem_cons_of_mem d he)) (Nat.le_of_succ_le_succ hplaces),
            Nat.ofDigitChars_cons, Nat.mul_comm 10 value, List.length_cons, Nat.add_sub_add_right]

theorem readOptionalFraction?_padded {places shown n : Nat} (hplaces : 0 < places)
    (hle : places ≤ 9) (hfits : shown < Nat.pow 10 places)
    (hn : shown * Nat.pow 10 (9 - places) = n) (rest : List Char) :
    readOptionalFraction? ('.' :: padded places shown ++ '+' :: rest) = some (n, '+' :: rest) := by
  have hlength := length_padded hplaces hfits
  have hread := readFraction_append (fun _ hc => isDigit_of_mem_padded hc)
    (Nat.le_trans (Nat.le_of_eq hlength) hle) 0 (c := '+') rfl rest
  rw [hlength, ofDigitChars_padded, hn] at hread
  -- There is a first digit, so that the point is not the last character of the number.
  cases hdigits : padded places shown with
  | nil =>
      rw [hdigits, List.length_nil] at hlength
      omega
  | cons d digits =>
      have hd : d.isDigit = true := isDigit_of_mem_padded (hdigits ▸ List.mem_cons_self)
      rw [hdigits, List.cons_append] at hread
      simp only [List.cons_append, readOptionalFraction?, digit?_of_isDigit hd, Option.isSome_some,
        if_true, hread]

/-- **A fraction is read to the nanosecond**, however few places it is written on. -/
theorem readOptionalFraction?_fractionText {n : Nat} (h : n < 1000000000) (rest : List Char) :
    readOptionalFraction? (fractionText n ++ '+' :: rest) = some (n, '+' :: rest) := by
  unfold fractionText
  split
  · next hzero =>
      rw [hzero]
      rfl
  · split
    · next hmilli =>
        have hfits : n / 1000000 < 1000 := by omega
        have hshows : n / 1000000 * 1000000 = n := by omega
        exact readOptionalFraction?_padded (by decide) (by decide) hfits hshows rest
    · split
      · next hmicro =>
          have hfits : n / 1000 < 1000000 := by omega
          have hshows : n / 1000 * 1000 = n := by omega
          exact readOptionalFraction?_padded (by decide) (by decide) hfits hshows rest
      · exact readOptionalFraction?_padded (by decide) (by decide) h (Nat.mul_one n) rest

/-! ### The text -/

/-- A moment whose year four digits show. -/
def HasPlainYear (t : Timestamp) : Prop := 0 ≤ t.date.year ∧ t.date.year ≤ 9999

instance (t : Timestamp) : Decidable t.HasPlainYear := by unfold HasPlainYear; infer_instance

theorem hour_lt (t : Timestamp) : t.hour < 24 := by
  have hsecond := Int.emod_lt_of_pos t.second (show (0 : Int) < 86400 by decide)
  unfold hour secondOfDay
  omega

theorem minute_lt (t : Timestamp) : t.minute < 60 := Nat.mod_lt _ (by decide)

theorem secondOfMinute_lt (t : Timestamp) : t.secondOfMinute < 61 := by
  have hsecond : t.secondOfDay % 60 < 60 := Nat.mod_lt _ (by decide)
  unfold secondOfMinute
  split
  · omega
  · omega

theorem fraction_lt (t : Timestamp) : t.fraction < 1000000000 := Nat.mod_lt _ (by decide)

theorem date_exists (t : Timestamp) : t.date.Exists := Date.exists_ofDayNumber _

/-- No month has more than 31 days. -/
theorem day_le_of_exists {d : Date} (h : d.Exists) : d.day ≤ 31 := by
  obtain ⟨hmonth, hmonth', -, hday⟩ := h
  have hlength : ∀ (leap : Bool) (index : Fin 12),
      (Date.monthLengths leap).getD index 0 ≤ 31 := by decide
  exact Nat.le_trans hday (hlength _ ⟨d.month - 1, by omega⟩)

/-- **The parts of a text are read one by one.** -/
theorem readChars?_textChars {t : Timestamp} (h : t.HasPlainYear) :
    readChars? t.textChars =
      ofLocal? t.date t.hour t.minute t.secondOfMinute t.fraction 0 := by
  have hplain : 0 ≤ t.date.year ∧ t.date.year ≤ 9999 := h
  have hdate := t.date_exists
  have hyear : t.date.year.toNat < 10000 := by omega
  have hmonth : t.date.month < 100 := Nat.lt_of_le_of_lt hdate.2.1 (by decide)
  have hday : t.date.day < 100 := Nat.lt_of_le_of_lt (day_le_of_exists hdate) (by decide)
  have hhour : t.hour < 100 := Nat.lt_trans t.hour_lt (by decide)
  have hminute : t.minute < 100 := Nat.lt_trans t.minute_lt (by decide)
  have hsecond : t.secondOfMinute < 100 := Nat.lt_trans t.secondOfMinute_lt (by decide)
  have hfour : ∀ rest, readPlaces? 4 0 (padded 4 t.date.year.toNat ++ rest) =
      some (t.date.year.toNat, rest) := readPlaces?_padded (by decide) hyear
  have htwo : ∀ {n : Nat}, n < 100 → ∀ rest, readPlaces? 2 0 (padded 2 n ++ rest) =
      some (n, rest) := fun hn => readPlaces?_padded (by decide) hn
  have hoffset : readOffset? ['+', '0', '0', ':', '0', '0'] = some 0 := by rfl
  have hshown : (⟨(t.date.year.toNat : Int), t.date.month, t.date.day⟩ : Date) = t.date := by
    rw [Int.toNat_of_nonneg hplain.1]
  simp only [readChars?, textChars, Date.text, Date.yearText, if_pos hplain, List.append_assoc,
    List.cons_append, hfour, htwo hmonth, htwo hday, htwo hhour, htwo hminute, htwo hsecond,
    readOptionalFraction?_fractionText t.fraction_lt, afterStart?, readSeparator?, hoffset, hshown,
    if_true, Option.bind_eq_bind, Option.bind_some]

/-! ### The moment -/

/-- The second of a moment in four parts. -/
theorem second_eq (t : Timestamp) :
    t.second = t.date.dayNumber * 86400 +
      ((t.hour * 3600 + t.minute * 60 + t.secondOfDay % 60 : Nat) : Int) := by
  have hday : t.date.dayNumber = t.second / 86400 := Date.dayNumber_ofDayNumber _
  have hsecond := Int.emod_nonneg t.second (show (86400 : Int) ≠ 0 by decide)
  rw [hday]
  unfold hour minute secondOfDay
  omega

/-- The calendar of the program covers all years that four digits show. -/
theorem second_bounds {t : Timestamp} (h : t.HasPlainYear) :
    leastSecond ≤ t.second ∧ t.second ≤ greatestSecond := by
  obtain ⟨hlow, hhigh⟩ := Date.daysBeforeYear_yearAt (t.second / 86400 + Date.epoch)
  have hfirst := Date.daysBeforeYear_mono h.1
  have hlast := Date.daysBeforeYear_mono (Int.add_le_add_right h.2 1)
  have hzero : Date.daysBeforeYear 0 = 0 := by rfl
  have hend : Date.daysBeforeYear (9999 + 1) = 3652425 := by rfl
  rw [date, Date.year_ofDayNumber] at hfirst hlast
  unfold leastSecond greatestSecond
  unfold Date.epoch at *
  omega

theorem ofUnix?_second_nano {t : Timestamp} (h : t.HasPlainYear) :
    ofUnix? t.second t.nano = some t := by
  rw [ofUnix?, dif_pos ⟨t.nano_lt, t.leap⟩, if_pos (second_bounds h)]

/-- **The parts of a moment make the moment.** -/
theorem ofLocal?_parts {t : Timestamp} (h : t.HasPlainYear) :
    ofLocal? t.date t.hour t.minute t.secondOfMinute t.fraction 0 = some t := by
  have hhour := t.hour_lt
  have hminute := t.minute_lt
  have hsecond := t.secondOfMinute_lt
  have hparts := t.second_eq
  have hnano := t.nano_lt
  rw [ofLocal?, if_pos ⟨t.date_exists, by omega, by omega, by omega⟩, ← ofUnix?_second_nano h]
  by_cases hleap : 1000000000 ≤ t.nano
  · -- A leap second stands for the second before it.
    have hlast : t.secondOfDay % 60 = 59 := by
      have := t.leap hleap
      unfold secondOfDay
      omega
    have hsixty : t.secondOfMinute = 60 := by
      rw [secondOfMinute, if_pos hleap, hlast]
    have hfraction : t.fraction + 1000000000 = t.nano := by
      unfold fraction
      omega
    rw [if_pos hsixty, hfraction]
    congr 1
    omega
  · have hshown : t.secondOfMinute = t.secondOfDay % 60 := by
      rw [secondOfMinute, if_neg hleap, Nat.add_zero]
    have hfraction : t.fraction = t.nano := Nat.mod_eq_of_lt (Nat.not_le.1 hleap)
    rw [if_neg (by omega), hfraction]
    congr 1
    omega

/-- **A written moment reads as itself.** -/
theorem read?_text {t : Timestamp} (h : t.HasPlainYear) : read? t.text = some t := by
  rw [read?, text, String.toList_ofList, readChars?_textChars h, ofLocal?_parts h]

/-- The last leap second, half over. -/
def leapSecond : Timestamp := ⟨1483228799, 1500000000, by decide, by decide⟩

/-- It is shown as the sixtieth second of its minute. -/
example : leapSecond.text = "2016-12-31T23:59:60.500+00:00" := by decide

end CommandBot.Timestamp
