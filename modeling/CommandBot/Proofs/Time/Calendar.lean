/-
**Days and dates.**

A date is found from its day by way of the year and the month.  The year is the one that has begun
by that day while the next has not, and the month likewise; so the date is one of the calendar, and
counting its days leads back.

Main results:

* `CommandBot.Date.daysBeforeYear_yearAt` — a day lies in the year that is found for it;
* `CommandBot.Date.exists_monthAt` — and in the month;
* `CommandBot.Date.exists_ofDayNumber` — the calendar has every date that is found;
* `CommandBot.Date.dayNumber_ofDayNumber` — **the date of a day has the number of that day.**
-/

import CommandBot.Time.Date

set_option relaxedAutoImplicit false
set_option autoImplicit false

namespace CommandBot.Date

/-! ### Years -/

theorem daysBeforeYear_succ (year : Int) :
    daysBeforeYear (year + 1) = daysBeforeYear year + if isLeap year then 366 else 365 := by
  have hleap : isLeap year = true ↔ year % 4 = 0 ∧ (year % 100 ≠ 0 ∨ year % 400 = 0) := by
    simp [isLeap]
  unfold daysBeforeYear
  split
  · next h =>
      have := hleap.1 h
      omega
  · next h =>
      have := mt hleap.2 h
      omega

/-- The years begin one after another. -/
theorem daysBeforeYear_mono {a b : Int} (h : a ≤ b) : daysBeforeYear a ≤ daysBeforeYear b := by
  unfold daysBeforeYear
  omega

/-- **A day lies in the year that is found for it.** -/
theorem daysBeforeYear_yearAt (days : Int) :
    daysBeforeYear (yearAt days) ≤ days ∧ days < daysBeforeYear (yearAt days + 1) := by
  -- 400 years have 146097 days, so the guess is neither too late nor too early by two years.
  have hlow : daysBeforeYear (400 * days / 146097 - 1) ≤ days := by
    unfold daysBeforeYear
    omega
  have hhigh : days < daysBeforeYear (400 * days / 146097 + 1 + 1) := by
    unfold daysBeforeYear
    omega
  unfold yearAt
  dsimp only
  generalize 400 * days / 146097 = guess at hlow hhigh
  split
  · next h =>
      rw [Int.sub_add_cancel]
      exact ⟨hlow, h⟩
  · next h =>
      split
      · next h' => exact ⟨h', hhigh⟩
      · next h' => exact ⟨Int.not_lt.1 h, Int.not_le.1 h'⟩

/-! ### Months -/

/-- **A day lies in the month that is found for it**: so many days come before that month, and the
month is long enough. -/
theorem exists_monthAt {lengths : List Nat} {month days : Nat}
    (h : days < lengths.foldr (· + ·) 0) :
    ∃ index day, monthAt lengths month days = (month + index, day) ∧ index < lengths.length ∧
      1 ≤ day ∧ day ≤ lengths.getD index 0 ∧
        days + 1 = (lengths.take index).foldr (· + ·) 0 + day := by
  induction lengths generalizing month days with
  | nil => exact absurd h (Nat.not_lt_zero days)
  | cons length rest ih =>
      rw [List.foldr_cons] at h
      unfold monthAt
      split
      · next hlt =>
          exact ⟨0, days + 1, rfl, Nat.succ_pos _, Nat.succ_pos _, hlt, (Nat.zero_add _).symm⟩
      · next hle =>
          obtain ⟨index, day, hfound, hindex, hpos, hday, hsum⟩ :=
            @ih (month + 1) (days - length) (by omega)
          refine ⟨index + 1, day, ?_, by simpa using hindex, hpos, by simpa using hday, ?_⟩
          · rw [hfound]
            congr 1
            omega
          · rw [List.take_succ_cons, List.foldr_cons]
            omega

theorem sum_monthLengths (leap : Bool) :
    (monthLengths leap).foldr (· + ·) 0 = if leap then 366 else 365 := by
  cases leap with
  | false => rfl
  | true => rfl

/-! ### Days -/

theorem year_ofDayNumber (n : Int) : (ofDayNumber n).year = yearAt (n + epoch) := rfl

/-- The month and the day of the month that are found lie within the year that is found. -/
theorem exists_month_ofDayNumber (n : Int) :
    ∃ index day, ofDayNumber n = ⟨yearAt (n + epoch), 1 + index, day⟩ ∧ index < 12 ∧ 1 ≤ day ∧
      day ≤ (monthLengths (isLeap (yearAt (n + epoch)))).getD index 0 ∧
        n + epoch + 1 = daysBeforeYear (yearAt (n + epoch)) +
          (((monthLengths (isLeap (yearAt (n + epoch)))).take index).foldr (· + ·) 0 : Nat) +
            (day : Int) := by
  obtain ⟨hlow, hhigh⟩ := daysBeforeYear_yearAt (n + epoch)
  rw [daysBeforeYear_succ] at hhigh
  unfold ofDayNumber
  dsimp only
  generalize yearAt (n + epoch) = year at hlow hhigh
  have hdays : (n + epoch - daysBeforeYear year).toNat <
      (monthLengths (isLeap year)).foldr (· + ·) 0 := by
    rw [sum_monthLengths]
    split
    · next h =>
        rw [if_pos h] at hhigh
        omega
    · next h =>
        rw [if_neg h] at hhigh
        omega
  obtain ⟨index, day, hfound, hindex, hpos, hday, hsum⟩ := @exists_monthAt _ 1 _ hdays
  refine ⟨index, day, by rw [hfound], hindex, hpos, hday, ?_⟩
  omega

/-- The calendar has every date that is found. -/
theorem exists_ofDayNumber (n : Int) : (ofDayNumber n).Exists := by
  obtain ⟨index, day, hdate, hindex, hpos, hday, -⟩ := exists_month_ofDayNumber n
  rw [hdate]
  refine ⟨by simp, by dsimp only; omega, hpos, ?_⟩
  rw [Nat.add_sub_cancel_left]
  exact hday

/-- **The date of a day has the number of that day.** -/
theorem dayNumber_ofDayNumber (n : Int) : (ofDayNumber n).dayNumber = n := by
  obtain ⟨index, day, hdate, -, -, -, hsum⟩ := exists_month_ofDayNumber n
  rw [hdate]
  simp only [dayNumber, daysBeforeMonth, Nat.add_sub_cancel_left]
  omega

end CommandBot.Date
