/-
**Quoted text.**

A description for a log puts text between double quotes.  A quote, a backslash and the usual
control characters have two-character escapes, any other character that leaves no mark of its
own is shown by its code point, and the rest stands for itself.

* `CommandBot.Text.quote` — a text between quotes;
* `CommandBot.Text.quoteList` — a list of texts between brackets.
-/

import CommandBot.Text.Hidden

set_option relaxedAutoImplicit false
set_option autoImplicit false

namespace CommandBot.Text

/-- How one character is shown between quotes. -/
def escapeChar (c : Char) : List Char :=
  if c = '"' then ['\\', '"']
  else if c = '\\' then ['\\', '\\']
  else if c = '\n' then ['\\', 'n']
  else if c = '\r' then ['\\', 'r']
  else if c = '\t' then ['\\', 't']
  else if c = Char.ofNat 0 then ['\\', '0']
  else if isHidden c then
    ['\\', 'u', '\x7b'] ++ Nat.toDigits 16 c.toNat ++ ['\x7d']
  else [c]

/-- **A text between quotes.** -/
def quote (s : String) : String :=
  String.ofList ('"' :: (s.toList.flatMap escapeChar ++ ['"']))

/-- Texts between quotes, in brackets and parted by commas. -/
def quoteList (texts : List String) : String :=
  "[" ++ ", ".intercalate (texts.map quote) ++ "]"

end CommandBot.Text
