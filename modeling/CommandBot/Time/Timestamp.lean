/-
**Moments in time.**

A moment is a second of UTC and a part of that second in nanoseconds.  The last second of a minute
may be a leap second: its part then runs on to a second thousand million.

* `CommandBot.Timestamp` — a moment;
* `CommandBot.Timestamp.ofUnix?` — the moment of a number of seconds since 1970;
* `CommandBot.Timestamp.date`, `hour`, `minute`, `secondOfMinute` — its parts on the clock of UTC.
-/

import CommandBot.Time.Date

set_option relaxedAutoImplicit false
set_option autoImplicit false

namespace CommandBot

/-- A moment in time. -/
structure Timestamp where
  /-- The seconds since the beginning of 1970. -/
  second : Int
  /-- The nanoseconds since the beginning of that second. -/
  nano : Nat
  /-- A second and a leap second hold at most two thousand million nanoseconds. -/
  nano_lt : nano < 2000000000 := by omega
  /-- Only the last second of a minute is followed by a leap second. -/
  leap : 1000000000 ≤ nano → second % 60 = 59 := by omega
deriving DecidableEq, Repr

namespace Timestamp

/-! ### Construction -/

/-- The moment from which seconds are counted. -/
def epoch : Timestamp where
  second := 0
  nano := 0

/-- The first second that the calendar of the program covers. -/
def leastSecond : Int := -8334601228800

/-- The last second that the calendar of the program covers. -/
def greatestSecond : Int := 8210266876799

/-- The moment of a number of seconds since 1970 and a number of nanoseconds, if there is one. -/
def ofUnix? (second : Int) (nano : Nat) : Option Timestamp :=
  if h : nano < 2000000000 ∧ (1000000000 ≤ nano → second % 60 = 59) then
    if leastSecond ≤ second ∧ second ≤ greatestSecond then some ⟨second, nano, h.1, h.2⟩ else none
  else none

/-! ### Parts on the clock -/

/-- The date of the moment. -/
def date (t : Timestamp) : Date := Date.ofDayNumber (t.second / 86400)

/-- The seconds since midnight. -/
def secondOfDay (t : Timestamp) : Nat := (t.second % 86400).toNat

/-- The hour of the day. -/
def hour (t : Timestamp) : Nat := t.secondOfDay / 3600

/-- The minute of the hour. -/
def minute (t : Timestamp) : Nat := t.secondOfDay / 60 % 60

/-- The second of the minute; a leap second is the sixtieth. -/
def secondOfMinute (t : Timestamp) : Nat :=
  t.secondOfDay % 60 + if 1000000000 ≤ t.nano then 1 else 0

/-- The nanoseconds of the second that is shown. -/
def fraction (t : Timestamp) : Nat := t.nano % 1000000000

end Timestamp

end CommandBot
