/-
**White space.**

The bot trims settings, search words and shell messages of the characters that Unicode lists as
white space.  The class is wider than the ASCII blanks and does not hold the zero-width ones: a
no-break space is trimmed, a zero-width space or a byte order mark is not.

* `CommandBot.Text.isSpace` — the class, as a test on a character;
* `CommandBot.Text.isBlank` — a text that holds nothing else;
* `CommandBot.Text.trim` — a text without its outer white space.
-/

set_option relaxedAutoImplicit false
set_option autoImplicit false

namespace CommandBot.Text

/-! ### The class -/

/-- The code points with the property `White_Space`, as closed ranges. -/
def spaceRanges : List (Nat × Nat) :=
  [(0x9, 0xD), (0x20, 0x20), (0x85, 0x85), (0xA0, 0xA0), (0x1680, 0x1680), (0x2000, 0x200A),
   (0x2028, 0x2029), (0x202F, 0x202F), (0x205F, 0x205F), (0x3000, 0x3000)]

/-- A character with the property `White_Space`. -/
def isSpace (c : Char) : Bool :=
  spaceRanges.any fun range => range.1 ≤ c.toNat && c.toNat ≤ range.2

/-! ### Trimming -/

/-- The text after its leading white space. -/
def trimStartChars (s : List Char) : List Char := s.dropWhile isSpace

/-- The text before its trailing white space. -/
def trimEndChars (s : List Char) : List Char := (s.reverse.dropWhile isSpace).reverse

/-- The text without its outer white space. -/
def trimChars (s : List Char) : List Char := trimEndChars (trimStartChars s)

/-- **The text without its outer white space.** -/
def trim (s : String) : String := String.ofList (trimChars s.toList)

/-- A text of white space only; the empty text is one. -/
def isBlank (s : String) : Bool := s.toList.all isSpace

@[simp] theorem toList_trim (s : String) : (trim s).toList = trimChars s.toList := by
  simp [trim]

@[simp] theorem isBlank_empty : isBlank "" = true := by simp [isBlank]

end CommandBot.Text
