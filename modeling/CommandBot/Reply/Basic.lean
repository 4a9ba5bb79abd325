/-
**Replies.**

What a command sends back: a text, an embed and a file, each of which may be absent.  An absent
text is the empty one.

* `CommandBot.Embed` — a box with a title, named fields and decorations;
* `CommandBot.Attachment` — a file with its name;
* `CommandBot.Reply` — what is sent back;
* `CommandBot.Reply.isEmpty` — whether nothing would be sent.
-/

set_option relaxedAutoImplicit false
set_option autoImplicit false

namespace CommandBot

/-! ### Embeds -/

/-- A named value in an embed. -/
structure EmbedField where
  name : String
  value : String
  /-- Whether the field may share its line with others. -/
  inline : Bool
deriving DecidableEq, Repr

/-- A box shown below the text of a message. -/
structure Embed where
  title : Option String
  description : Option String
  fields : List EmbedField
  /-- The colour as a number, red in the highest byte. -/
  color : Option UInt32
  imageUrl : Option String
  footer : Option String
deriving DecidableEq, Repr

/-- An embed with nothing in it. -/
def Embed.blank : Embed := ⟨none, none, [], none, none, none⟩

/-! ### Files -/

/-- A file that goes with a message. -/
structure Attachment where
  filename : String
  data : List UInt8
deriving DecidableEq, Repr

/-! ### Replies -/

/-- What a command sends back. -/
structure Reply where
  text : String
  embed : Option Embed
  attachment : Option Attachment
deriving DecidableEq, Repr

namespace Reply

/-- A reply of text alone. -/
def ofText (text : String) : Reply := ⟨text, none, none⟩

/-- A reply that is an embed. -/
def ofEmbed (embed : Embed) : Reply := ⟨"", some embed, none⟩

/-- A reply that is a file. -/
def ofFile (filename : String) (data : List UInt8) : Reply := ⟨"", none, some ⟨filename, data⟩⟩

/-- Nothing would be sent. -/
def isEmpty (r : Reply) : Bool := r.text.isEmpty && r.embed.isNone && r.attachment.isNone

@[simp] theorem isEmpty_ofText (text : String) : (ofText text).isEmpty = text.isEmpty := by
  simp [isEmpty, ofText]

@[simp] theorem isEmpty_ofEmbed (embed : Embed) : (ofEmbed embed).isEmpty = false := by
  simp [isEmpty, ofEmbed]

@[simp] theorem isEmpty_ofFile (filename : String) (data : List UInt8) :
    (ofFile filename data).isEmpty = false := by
  simp [isEmpty, ofFile]

end Reply

end CommandBot
