/-
**Hexadecimal digits.**

* `CommandBot.Text.hexDigit?` — the value of a digit of either case;
* `CommandBot.Text.upperHexDigit` — the upper-case digit of a value.
-/

set_option relaxedAutoImplicit false
set_option autoImplicit false

namespace CommandBot.Text

/-- The value of a hexadecimal digit of either case. -/
def hexDigit? (c : Char) : Option Nat :=
  if '0' ≤ c ∧ c ≤ '9' then some (c.toNat - 48)
  else if 'a' ≤ c ∧ c ≤ 'f' then some (c.toNat - 87)
  else if 'A' ≤ c ∧ c ≤ 'F' then some (c.toNat - 55)
  else none

/-- The upper-case hexadecimal digit of a number below sixteen. -/
def upperHexDigit (n : Nat) : Char := if n < 10 then Char.ofNat (48 + n) else Char.ofNat (55 + n)

/-- A digit reads back as its value. -/
theorem hexDigit?_upperHexDigit {n : Nat} (h : n < 16) :
    hexDigit? (upperHexDigit n) = some n := by
  revert h; revert n; decide

end CommandBot.Text
