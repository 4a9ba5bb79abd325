/-
**Octets.**

File names, files and all that a shell handles are sequences of bytes.  An octet is shown as the
character of its number, so that texts of octets can be compared with text that is written out.

* `CommandBot.Octets` — a text of octets;
* `CommandBot.Octets.ofText` — the octets of a text in UTF-8;
* `CommandBot.Octets.ofBytes`, `CommandBot.Octets.toBytes` — octets from and to bytes;
* `CommandBot.Octets.isBefore` — the order of the bytes.
-/

import CommandBot.Text.Utf8

set_option relaxedAutoImplicit false
set_option autoImplicit false

namespace CommandBot

/-- A text of octets, each as the character of its number. -/
abbrev Octets := List Char

namespace Octets

/-- The octets of bytes. -/
def ofBytes (bytes : List UInt8) : Octets := bytes.map fun b => Char.ofNat b.toNat

/-- The octets of a text. -/
def ofText (s : List Char) : Octets := ofBytes (Text.Utf8.bytes s)

/-- The bytes of octets. -/
def toBytes (s : Octets) : List UInt8 := s.map fun c => UInt8.ofNat c.toNat

/-- Whether one text comes before another, byte by byte. -/
def isBefore : Octets → Octets → Bool
  | _, [] => false
  | [], _ :: _ => true
  | a :: s, b :: t => a < b || (a == b && isBefore s t)

theorem ofText_append (s t : List Char) : ofText (s ++ t) = ofText s ++ ofText t := by
  simp [ofText, ofBytes, Text.Utf8.bytes]

/-- Bytes are kept by what is shown of them. -/
theorem toBytes_ofBytes (bytes : List UInt8) : toBytes (ofBytes bytes) = bytes := by
  have byte (b : UInt8) : UInt8.ofNat (Char.ofNat b.toNat).toNat = b := by
    have valid : b.toNat.isValidChar := Or.inl (by have := b.toNat_lt; omega)
    have char : (Char.ofNat b.toNat).toNat = b.toNat := by
      rw [Char.ofNat, dif_pos valid]
      rfl
    rw [char, UInt8.ofNat_toNat]
  induction bytes with
  | nil => rfl
  | cons b rest ih =>
      show UInt8.ofNat (Char.ofNat b.toNat).toNat :: toBytes (ofBytes rest) = b :: rest
      rw [byte, ih]

end Octets

end CommandBot
