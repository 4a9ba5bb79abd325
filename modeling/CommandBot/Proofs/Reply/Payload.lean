/-
**A message shows the whole reply.**

A reply is sent as a document, in which what is absent is left out, and as a list of files.  The
names of the members are different, and what is left out is told apart from what is empty, so that
the reply can be read back from its message.

Main definitions:

* `CommandBot.Payload.optional?` — what a record says under a name that may be absent;
* `CommandBot.EmbedField.ofPayload?`, `CommandBot.Embed.ofPayload?` — a field and an embed as they
  are read from documents;
* `CommandBot.Reply.ofMessage?` — the reply that was sent as a message.

Main results:

* `CommandBot.Embed.ofPayload?_payload` — an embed is read back from its document;
* `CommandBot.Reply.ofMessage?_message` — **a reply is read back from its message**;
* `CommandBot.Reply.message_faithful` — **different replies are sent as different messages**, and
  only an empty reply is sent as an empty message.
-/

import CommandBot.Reply.Payload

set_option relaxedAutoImplicit false
set_option autoImplicit false

namespace CommandBot

/-! ### Reading documents -/

namespace Payload

/-- The value of a flag. -/
def flag? : Payload → Option Bool
  | flag value => some value
  | _ => none

/-- A number of four bytes. -/
def word? : Payload → Option UInt32
  | number value => if value < UInt32.size then some (UInt32.ofNat value) else none
  | _ => none

/-- The characters of a text. -/
def text? : Payload → Option String
  | text value => some value
  | _ => none

/-- The items of a list. -/
def list? : Payload → Option (List Payload)
  | list items => some items
  | _ => none

variable {α : Type}

/-- What a record says under a name.  It may say nothing, but not what cannot be read. -/
def optional? (name : String) (read : Payload → Option α) (p : Payload) : Option (Option α) :=
  match p.member? name with
  | none => some none
  | some value => (read value).map some

end Payload

open Payload (optional?)

/-- A field of an embed as it is read from a document. -/
def EmbedField.ofPayload? (p : Payload) : Option EmbedField := do
  let name ← p.member? "name" >>= Payload.text?
  let value ← p.member? "value" >>= Payload.text?
  let inline ← p.member? "inline" >>= Payload.flag?
  return ⟨name, value, inline⟩

/-- The fields of an embed as they are read from a list. -/
def Embed.fieldsOf? (p : Payload) : Option (List EmbedField) :=
  p.list? >>= List.mapM EmbedField.ofPayload?

/-- **An embed as it is read from a document**; without a list of fields it has none. -/
def Embed.ofPayload? (p : Payload) : Option Embed := do
  let title ← optional? "title" Payload.text? p
  let description ← optional? "description" Payload.text? p
  let fields ← optional? "fields" Embed.fieldsOf? p
  let color ← optional? "color" Payload.word? p
  let imageUrl ← optional? "image" (fun image => image.member? "url" >>= Payload.text?) p
  let footer ← optional? "footer" (fun footer => footer.member? "text" >>= Payload.text?) p
  return ⟨title, description, fields.getD [], color, imageUrl, footer⟩

namespace Reply

/-- The one embed of a message as it is read from a list. -/
def embedOf? (p : Payload) : Option Embed :=
  match p.list? with
  | some [embed] => Embed.ofPayload? embed
  | _ => none

/-- The file of a message, which has at most one. -/
def attachmentOf? : List Attachment → Option (Option Attachment)
  | [] => some none
  | [file] => some (some file)
  | _ => none

/-- **The reply that was sent as a message**; without a text it has the empty one. -/
def ofMessage? (message : Payload) (files : List Attachment) : Option Reply := do
  let text ← optional? "content" Payload.text? message
  let embed ← optional? "embeds" embedOf? message
  let attachment ← attachmentOf? files
  return ⟨text.getD "", embed, attachment⟩

end Reply

/-! ### Members that may be absent -/

variable {α : Type} {name : String} {p : Payload} {read : Payload → Option α} {write : α → Payload}

/-- What a member was written from is read from it, and an absent member is read as such. -/
theorem Payload.optional?_eq {value : Option α} (h : p.member? name = value.map write)
    (hread : ∀ a, read (write a) = some a) : p.optional? name read = some value := by
  rw [optional?, h]
  cases value with
  | none => rfl
  | some a =>
      rw [Option.map_some]
      simp only [hread, Option.map_some]

/-- A member that is left out if there is nothing to say. -/
def optionalMember (name : String) (value : Option Payload) : List (String × Payload) :=
  (value.map fun v => (name, v)).toList

theorem lookup_optionalMember (key name : String) (value : Option Payload) :
    (optionalMember name value).lookup key = if key = name then value else none := by
  cases value with
  | none => simp [optionalMember]
  | some v =>
      by_cases h : key = name
      · rw [h, if_pos rfl]
        exact List.lookup_cons_self
      · have hkey : (key == name) = false := by simpa using h
        rw [if_neg h, optionalMember, Option.map_some, Option.toList_some, List.lookup_cons, hkey]
        rfl

theorem textMember_eq (name : String) (value : Option String) :
    textMember name value = optionalMember name (value.map Payload.text) := by
  cases value <;> rfl

theorem wrappedMember_eq (name inner : String) (value : Option String) :
    wrappedMember name inner value =
      optionalMember name (value.map fun text => .record [(inner, .text text)]) := by
  cases value <;> rfl

theorem Embed.colorMember_eq (color : Option UInt32) :
    Embed.colorMember color =
      optionalMember "color" (color.map fun color => .number color.toNat) := by
  cases color <;> rfl

theorem Reply.embedsMember_eq (embed : Option Embed) :
    Reply.embedsMember embed =
      optionalMember "embeds" (embed.map fun embed => .list [embed.payload]) := by
  cases embed <;> rfl

/-! ### Members that may be empty -/

/-- What is worth saying: everything but the empty text or list. -/
def worth [DecidableEq α] (empty a : α) : Option α := if a = empty then none else some a

theorem getD_worth [DecidableEq α] (empty a : α) : (worth empty a).getD empty = a := by
  rw [worth]
  split
  · next h => exact h.symm
  · rfl

theorem Embed.fieldsMember_eq (fields : List EmbedField) :
    Embed.fieldsMember fields =
      optionalMember "fields"
        ((worth [] fields).map fun fields => .list (fields.map EmbedField.payload)) := by
  cases fields <;> rfl

theorem Reply.contentMember_eq (text : String) :
    Reply.contentMember text = optionalMember "content" ((worth "" text).map Payload.text) := by
  by_cases h : text = ""
  · rw [h]
    rfl
  · have hvisible : ¬ text.isEmpty = true := by simpa using h
    rw [Reply.contentMember, if_neg hvisible, worth, if_neg h]
    rfl

/-! ### Embeds -/

theorem Payload.word?_number (n : UInt32) : Payload.word? (.number n.toNat) = some n := by
  rw [word?, if_pos n.toNat_lt_size, UInt32.ofNat_toNat]

theorem EmbedField.ofPayload?_payload (field : EmbedField) :
    EmbedField.ofPayload? field.payload = some field := rfl

theorem Embed.fieldsOf?_list (fields : List EmbedField) :
    Embed.fieldsOf? (.list (fields.map EmbedField.payload)) = some fields := by
  change (fields.map EmbedField.payload).mapM EmbedField.ofPayload? = some fields
  induction fields with
  | nil => rfl
  | cons field fields ih =>
      rw [List.map_cons, List.mapM_cons, EmbedField.ofPayload?_payload, ih]
      rfl

/-- The members of an embed have different names, so that each is found under its own. -/
theorem Embed.member?_payload (embed : Embed) :
    embed.payload.member? "title" = embed.title.map Payload.text ∧
    embed.payload.member? "description" = embed.description.map Payload.text ∧
    embed.payload.member? "fields" =
      (worth [] embed.fields).map (fun fields => .list (fields.map EmbedField.payload)) ∧
    embed.payload.member? "color" = embed.color.map (fun color => .number color.toNat) ∧
    embed.payload.member? "image" = embed.imageUrl.map (fun url => .record [("url", .text url)]) ∧
    embed.payload.member? "footer" =
      embed.footer.map fun footer => .record [("text", .text footer)] := by
  refine ⟨?_, ?_, ?_, ?_, ?_, ?_⟩ <;>
    simp [Embed.payload, Payload.member?, textMember_eq, wrappedMember_eq, Embed.colorMember_eq,
      Embed.fieldsMember_eq, List.lookup_cons, List.lookup_append, lookup_optionalMember]

/-- **An embed is read back from its document.** -/
theorem Embed.ofPayload?_payload (embed : Embed) : Embed.ofPayload? embed.payload = some embed := by
  obtain ⟨htitle, hdescription, hfields, hcolor, himage, hfooter⟩ := embed.member?_payload
  have htext : ∀ text, Payload.text? (.text text) = some text := fun _ => rfl
  rw [Embed.ofPayload?, Payload.optional?_eq htitle htext, Payload.optional?_eq hdescription htext,
    Payload.optional?_eq hfields Embed.fieldsOf?_list,
    Payload.optional?_eq hcolor Payload.word?_number,
    Payload.optional?_eq himage fun _ => rfl, Payload.optional?_eq hfooter fun _ => rfl]
  simp only [Option.bind_eq_bind, Option.bind_some, getD_worth]
  rfl

/-! ### Messages -/

namespace Reply

theorem member?_payload (r : Reply) :
    r.payload.member? "content" = (worth "" r.text).map Payload.text ∧
    r.payload.member? "embeds" = r.embed.map fun embed => .list [embed.payload] := by
  refine ⟨?_, ?_⟩ <;>
    simp [payload, Payload.member?, contentMember_eq, embedsMember_eq, List.lookup_cons,
      List.lookup_append, lookup_optionalMember]

theorem attachmentOf?_files (r : Reply) : attachmentOf? r.files = some r.attachment := by
  rw [files]
  cases r.attachment <;> rfl

/-- **A reply is read back from its message.** -/
theorem ofMessage?_message (r : Reply) : ofMessage? r.payload r.files = some r := by
  obtain ⟨hcontent, hembeds⟩ := r.member?_payload
  rw [ofMessage?, Payload.optional?_eq hcontent fun _ => rfl,
    Payload.optional?_eq hembeds Embed.ofPayload?_payload, attachmentOf?_files]
  simp only [Option.bind_eq_bind, Option.bind_some, getD_worth]
  rfl

theorem worth_eq_none_iff [DecidableEq α] {empty a : α} : worth empty a = none ↔ a = empty := by
  rw [worth]
  split
  · next h => simp [h]
  · next h => simp [h]

/-- **Rendering loses nothing.**  A reply is read back from its message, so that different replies
are sent as different messages; and there is neither text nor embed nor file in the message if and
only if the reply is empty. -/
theorem message_faithful :
    (∀ r : Reply, ofMessage? r.payload r.files = some r) ∧
    (∀ r r' : Reply, r.payload = r'.payload ∧ r.files = r'.files ↔ r = r') ∧
    ∀ r : Reply,
      (r.payload.member? "content" = none ∧ r.payload.member? "embeds" = none ∧ r.files = []) ↔
        r.isEmpty = true := by
  refine ⟨ofMessage?_message, fun r r' => ⟨?_, ?_⟩, fun r => ?_⟩
  · rintro ⟨hpayload, hfiles⟩
    have hread := ofMessage?_message r
    rw [hpayload, hfiles, ofMessage?_message] at hread
    exact (Option.some.inj hread).symm
  · rintro rfl
    exact ⟨rfl, rfl⟩
  · obtain ⟨hcontent, hembeds⟩ := r.member?_payload
    rw [hcontent, hembeds, Option.map_eq_none_iff, Option.map_eq_none_iff, worth_eq_none_iff]
    simp [files, isEmpty, and_assoc]

end Reply

end CommandBot
