/-
**The message a reply is sent as.**

The chat service takes a message as a document with named members and a list of files.  A member
that is not set is left out: the text if it is empty, the list of fields if it has none, and every
option that is absent.

* `CommandBot.Payload` — documents;
* `CommandBot.Embed.payload`, `CommandBot.Reply.payload` — an embed and a message as documents;
* `CommandBot.Reply.files` — the files of a message;
* `CommandBot.Reply.isSendable` — the limits that the service puts on a message.
-/

import CommandBot.Reply.Basic

set_option relaxedAutoImplicit false
set_option autoImplicit false

namespace CommandBot

/-! ### Documents -/

/-- A document of named members. -/
inductive Payload where
  | flag (value : Bool)
  | number (value : Nat)
  | text (value : String)
  | list (items : List Payload)
  | record (members : List (String × Payload))

namespace Payload

/-- The member of a record under a name. -/
def member? (name : String) : Payload → Option Payload
  | record members => members.lookup name
  | _ => none

end Payload

/-- An optional text as a member. -/
def textMember (name : String) (value : Option String) : List (String × Payload) :=
  match value with
  | none => []
  | some text => [(name, .text text)]

/-! ### Embeds -/

/-- A field of an embed as a document. -/
def EmbedField.payload (field : EmbedField) : Payload :=
  .record [("name", .text field.name), ("value", .text field.value),
    ("inline", .flag field.inline)]

/-- The fields of an embed as a member; there is none without fields. -/
def Embed.fieldsMember (fields : List EmbedField) : List (String × Payload) :=
  match fields with
  | [] => []
  | fields => [("fields", .list (fields.map EmbedField.payload))]

/-- The colour of an embed as a member. -/
def Embed.colorMember (color : Option UInt32) : List (String × Payload) :=
  match color with
  | none => []
  | some color => [("color", .number color.toNat)]

/-- An optional text as a member that wraps it in a record of its own. -/
def wrappedMember (name inner : String) (value : Option String) : List (String × Payload) :=
  match value with
  | none => []
  | some text => [(name, .record [(inner, .text text)])]

/-- **An embed as a document**, with the members that are set. -/
def Embed.payload (embed : Embed) : Payload :=
  .record (("type", .text "rich") :: (textMember "title" embed.title ++
    textMember "description" embed.description ++ Embed.fieldsMember embed.fields ++
    Embed.colorMember embed.color ++ wrappedMember "image" "url" embed.imageUrl ++
    wrappedMember "footer" "text" embed.footer))

/-! ### Messages -/

namespace Reply

/-- The text of a message as a member; an empty text is left out. -/
def contentMember (text : String) : List (String × Payload) :=
  if text.isEmpty then [] else [("content", .text text)]

/-- The embed of a message as a member. -/
def embedsMember (embed : Option Embed) : List (String × Payload) :=
  match embed with
  | none => []
  | some embed => [("embeds", .list [embed.payload])]

/-- **The document of a message.** -/
def payload (r : Reply) : Payload :=
  .record (("tts", .flag false) :: (contentMember r.text ++ embedsMember r.embed))

/-- The files of a message. -/
def files (r : Reply) : List Attachment := r.attachment.toList

/-! ### Limits -/

/-- The bytes of the texts of an embed that count towards its limit. -/
def embedSize (embed : Embed) : Nat :=
  (embed.title.getD "").utf8ByteSize + (embed.description.getD "").utf8ByteSize +
    (embed.fields.map fun f => f.name.utf8ByteSize + f.value.utf8ByteSize).foldr (· + ·) 0 +
    (embed.footer.getD "").utf8ByteSize

/-- The service takes at most 2000 characters of text and 6000 bytes in the texts of an embed. -/
def isSendable (r : Reply) : Bool :=
  r.text.length ≤ 2000 && (r.embed.map embedSize).getD 0 ≤ 6000

end Reply

end CommandBot
