/-
**The grammar of JSON.**

Which texts are JSON, and of which document, said without a reader.  The phrases of the grammar are
a value, a value with white space around it, and the inside of an array and of an object that is not
empty.  Numbers and strings have small grammars of their own.  In a string a unit of UTF-16 may
stand for itself even if it is one half of a pair; what text a string stands for, if any, is a
question of its own.

* `CommandBot.Json.Grammar.Numeral` — how a number is written;
* `CommandBot.Json.Grammar.Quoted` — how the items of a string are written;
* `CommandBot.Json.Grammar.Derives` — how the phrases are written;
* `CommandBot.Json.Grammar.StandsFor` — the text that the items of a string stand for;
* `CommandBot.Json.IsText` — **the texts of a document.**
-/

import CommandBot.Json.Document

set_option relaxedAutoImplicit false
set_option autoImplicit false

namespace CommandBot.Json

namespace Grammar

/-! ### White space -/

/-- White space, or nothing. -/
def Gap (s : List Char) : Prop := ∀ c ∈ s, c = ' ' ∨ c = '\t' ∨ c = '\n' ∨ c = '\r'

/-! ### Numbers -/

/-- One or more digits. -/
def Digits (s : List Char) : Prop := s ≠ [] ∧ ∀ c ∈ s, c.isDigit = true

/-- The whole part of a number: a zero alone, or digits of which the first is another one. -/
inductive Whole : List Char → Prop where
  | zero : Whole ['0']
  | digits {first : Char} {rest : List Char} (nonzero : first ≠ '0')
      (digits : Digits (first :: rest)) : Whole (first :: rest)

/-- The part after the point. -/
inductive Fraction : List Char → Prop where
  | absent : Fraction []
  | digits {s : List Char} (digits : Digits s) : Fraction ('.' :: s)

/-- The exponent. -/
inductive Exponent : List Char → Prop where
  | absent : Exponent []
  | unsigned {c : Char} {s : List Char} (mark : c = 'e' ∨ c = 'E') (digits : Digits s) :
      Exponent (c :: s)
  | signed {c d : Char} {s : List Char} (mark : c = 'e' ∨ c = 'E') (sign : d = '+' ∨ d = '-')
      (digits : Digits s) : Exponent (c :: d :: s)

/-- A number without its sign. -/
inductive Magnitude : List Char → Prop where
  | mk {s t u : List Char} (whole : Whole s) (fraction : Fraction t) (exponent : Exponent u) :
      Magnitude (s ++ t ++ u)

/-- **How a number is written.** -/
inductive Numeral : List Char → Prop where
  | positive {s : List Char} (magnitude : Magnitude s) : Numeral s
  | negative {s : List Char} (magnitude : Magnitude s) : Numeral ('-' :: s)

/-! ### Strings -/

/-- The letters of the short escapes, with the characters that they stand for. -/
def shortEscapes : List (Char × Char) :=
  [('"', '"'), ('\\', '\\'), ('/', '/'), ('b', '\x08'), ('f', '\x0c'), ('n', '\n'), ('r', '\r'),
    ('t', '\t')]

/-- A hexadecimal digit of either case, with its value. -/
def HexDigit (c : Char) (value : Nat) : Prop :=
  value < 10 ∧ c.toNat = '0'.toNat + value ∨
    10 ≤ value ∧ value < 16 ∧
      (c.toNat = 'a'.toNat + (value - 10) ∨ c.toNat = 'A'.toNat + (value - 10))

/-- How one item of a string is written: as it is, unless it is a control character, a quote or a
backslash; with a short escape; or as a unit of UTF-16 with four hexadecimal digits. -/
inductive Written : Item → List Char → Prop where
  | plain {c : Char} (visible : 0x20 ≤ c.toNat) (quote : c ≠ '"') (backslash : c ≠ '\\') :
      Written (.char c) [c]
  | short {letter c : Char} (escape : (letter, c) ∈ shortEscapes) :
      Written (.char c) ['\\', letter]
  | unit {c₃ c₂ c₁ c₀ : Char} {d₃ d₂ d₁ d₀ : Nat} (h₃ : HexDigit c₃ d₃) (h₂ : HexDigit c₂ d₂)
      (h₁ : HexDigit c₁ d₁) (h₀ : HexDigit c₀ d₀) :
      Written (.unit (d₃ * 0x1000 + d₂ * 0x100 + d₁ * 0x10 + d₀)) ['\\', 'u', c₃, c₂, c₁, c₀]

/-- **How the items of a string are written**, between the quotes. -/
inductive Quoted : List Item → List Char → Prop where
  | nil : Quoted [] []
  | cons {item : Item} {items : List Item} {s t : List Char} (first : Written item s)
      (rest : Quoted items t) : Quoted (item :: items) (s ++ t)

/-- **The text that the items of a string stand for.**  A unit stands for a character unless it is
one half of a pair; the two halves of a pair, the first one first, stand for one character. -/
inductive StandsFor : List Item → List Char → Prop where
  | nil : StandsFor [] []
  | char {c : Char} {items : List Item} {s : List Char} (rest : StandsFor items s) :
      StandsFor (.char c :: items) (c :: s)
  | unit {u : Nat} {items : List Item} {s : List Char} (whole : u < 0xD800 ∨ 0xDFFF < u)
      (rest : StandsFor items s) : StandsFor (.unit u :: items) (Char.ofNat u :: s)
  | pair {u v : Nat} {items : List Item} {s : List Char} (high : 0xD800 ≤ u ∧ u ≤ 0xDBFF)
      (low : 0xDC00 ≤ v ∧ v ≤ 0xDFFF) (rest : StandsFor items s) :
      StandsFor (.unit u :: .unit v :: items)
        (Char.ofNat (0x10000 + (u - 0xD800) * 0x400 + (v - 0xDC00)) :: s)

/-! ### Documents -/

/-- A phrase of the grammar. -/
inductive Phrase where
  /-- A value, from its first character to its last. -/
  | value (v : Json)
  /-- A value with white space around it. -/
  | element (v : Json)
  /-- The items of an array, of which there is at least one. -/
  | elements (items : List Json)
  /-- A member of an object. -/
  | member (name : List Item) (v : Json)
  /-- The members of an object, of which there is at least one. -/
  | members (members : List (List Item × Json))

/-- **How the phrases are written.** -/
inductive Derives : Phrase → List Char → Prop where
  | null : Derives (.value .null) "null".toList
  | true : Derives (.value (.bool true)) "true".toList
  | false : Derives (.value (.bool false)) "false".toList
  | number {s : List Char} (numeral : Numeral s) : Derives (.value (.number s)) s
  | string {items : List Item} {s : List Char} (quoted : Quoted items s) :
      Derives (.value (.string items)) ('"' :: (s ++ ['"']))
  | emptyArray {w : List Char} (gap : Gap w) : Derives (.value (.array [])) ('[' :: (w ++ [']']))
  | array {items : List Json} {s : List Char} (inside : Derives (.elements items) s) :
      Derives (.value (.array items)) ('[' :: (s ++ [']']))
  | emptyObject {w : List Char} (gap : Gap w) :
      Derives (.value (.object [])) ('\x7b' :: (w ++ ['\x7d']))
  | object {members : List (List Item × Json)} {s : List Char}
      (inside : Derives (.members members) s) :
      Derives (.value (.object members)) ('\x7b' :: (s ++ ['\x7d']))
  | element {v : Json} {w s w' : List Char} (before : Gap w) (value : Derives (.value v) s)
      (after : Gap w') : Derives (.element v) (w ++ s ++ w')
  | lastElement {v : Json} {s : List Char} (item : Derives (.element v) s) :
      Derives (.elements [v]) s
  | moreElements {v : Json} {items : List Json} {s t : List Char} (item : Derives (.element v) s)
      (rest : Derives (.elements items) t) : Derives (.elements (v :: items)) (s ++ ',' :: t)
  | member {name : List Item} {v : Json} {w n w' s : List Char} (before : Gap w)
      (quoted : Quoted name n) (after : Gap w') (value : Derives (.element v) s) :
      Derives (.member name v) (w ++ '"' :: (n ++ '"' :: (w' ++ ':' :: s)))
  | lastMember {name : List Item} {v : Json} {s : List Char} (member : Derives (.member name v) s) :
      Derives (.members [(name, v)]) s
  | moreMembers {name : List Item} {v : Json} {members : List (List Item × Json)}
      {s t : List Char} (member : Derives (.member name v) s)
      (rest : Derives (.members members) t) :
      Derives (.members ((name, v) :: members)) (s ++ ',' :: t)

end Grammar

/-- **The texts of a document**: one value with white space around it. -/
def IsText (document : Json) (s : List Char) : Prop := Grammar.Derives (.element document) s

end CommandBot.Json
