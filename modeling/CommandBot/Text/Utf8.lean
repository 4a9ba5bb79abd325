/-
**Bytes as text.**

What a host program prints is a sequence of bytes.  It is shown as text even where it is not
well-formed UTF-8: every longest beginning of a character that cannot be completed becomes one
replacement character, and reading goes on with the byte that did not fit.

* `CommandBot.Text.Utf8.Expect` — what may follow the bytes of a character read so far;
* `CommandBot.Text.Utf8.decodeLossy` — the text of any bytes;
* `CommandBot.Text.Utf8.bytes` — the bytes of a text;
* `CommandBot.Text.Utf8.decode?` — the text of well-formed bytes only.
-/

set_option relaxedAutoImplicit false
set_option autoImplicit false

namespace CommandBot.Text.Utf8

/-! ### The form of one character -/

/-- The state after the first bytes of a character: the bounds of the next byte, the number of
bytes after that one, and the bits read so far. -/
structure Expect where
  /-- The least value the next byte may have. -/
  low : Nat
  /-- The greatest value the next byte may have. -/
  high : Nat
  /-- How many continuation bytes come after the next one. -/
  more : Nat
  /-- The code point read so far. -/
  value : Nat

/-- What follows a first byte of 128 or more; some bytes begin no character.  The bounds keep
out overlong forms, surrogates and code points past the last one. -/
def Expect.ofLead? (b : Nat) : Option Expect :=
  if b < 0xC2 then none
  else if b < 0xE0 then some ⟨0x80, 0xBF, 0, b - 0xC0⟩
  else if b = 0xE0 then some ⟨0xA0, 0xBF, 1, 0⟩
  else if b = 0xED then some ⟨0x80, 0x9F, 1, 0xD⟩
  else if b < 0xF0 then some ⟨0x80, 0xBF, 1, b - 0xE0⟩
  else if b = 0xF0 then some ⟨0x90, 0xBF, 2, 0⟩
  else if b < 0xF4 then some ⟨0x80, 0xBF, 2, b - 0xF0⟩
  else if b = 0xF4 then some ⟨0x80, 0x8F, 2, 4⟩
  else none

/-- The state after one more continuation byte, if another must follow. -/
def Expect.next (e : Expect) (b : Nat) : Expect :=
  ⟨0x80, 0xBF, e.more - 1, e.value * 64 + (b - 0x80)⟩

/-- The replacement character. -/
def replacement : Char := '\ufffd'

/-! ### Reading -/

/-- The text of the bytes that follow the ones `pending` stands for. -/
def decodeFrom : Option Expect → List UInt8 → List Char
  | none, [] => []
  | some _, [] => [replacement]
  | none, b :: rest =>
      if b.toNat < 0x80 then Char.ofNat b.toNat :: decodeFrom none rest
      else
        match Expect.ofLead? b.toNat with
        | none => replacement :: decodeFrom none rest
        | some e => decodeFrom (some e) rest
  | some e, b :: rest =>
      if e.low ≤ b.toNat ∧ b.toNat ≤ e.high then
        if e.more = 0 then Char.ofNat (e.value * 64 + (b.toNat - 0x80)) :: decodeFrom none rest
        else decodeFrom (some (e.next b.toNat)) rest
      else
        -- the character breaks off here, and the byte may begin another one
        replacement ::
          (if b.toNat < 0x80 then Char.ofNat b.toNat :: decodeFrom none rest
          else
            match Expect.ofLead? b.toNat with
            | none => replacement :: decodeFrom none rest
            | some e' => decodeFrom (some e') rest)

/-- **The text of any bytes**, with replacement characters where they are not well-formed. -/
def decodeLossy (bytes : List UInt8) : List Char := decodeFrom none bytes

@[simp] theorem decodeLossy_nil : decodeLossy [] = [] := rfl

/-! ### Well-formed bytes -/

/-- The bytes of a text. -/
def bytes (s : List Char) : List UInt8 := s.flatMap String.utf8EncodeChar

@[simp] theorem bytes_nil : bytes [] = [] := rfl

/-- The text that has these bytes, or nothing if they are not well-formed. -/
def decode? (b : List UInt8) : Option (List Char) :=
  let text := decodeLossy b
  if bytes text = b then some text else none

end CommandBot.Text.Utf8
