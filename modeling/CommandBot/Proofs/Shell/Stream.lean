/-
**What is kept of what is written.**

What is written through a descriptor reaches one sink or one file.  A sink keeps it behind what it got
before, as long as it has room; and nothing that was written is ever taken back.  A file has it at the
place where it was written, and is as it was everywhere else.

Main definitions:

* `CommandBot.Shell.Streams.Reaches` — what is written through something opened reaches a sink;
* `CommandBot.Shell.Streams.HasRoom`, `CommandBot.Shell.Streams.IsWithin` — the room of a sink;
* `CommandBot.Shell.Streams.writes` — texts written one after another.

Main results:

* `CommandBot.Shell.Streams.text_write`, `CommandBot.Shell.Streams.text_write_of_not_reaches` — **what
  one text adds to a sink**;
* `CommandBot.Shell.Streams.text_prefix_writes` — **nothing is taken back**, whatever is written;
* `CommandBot.Shell.Streams.length_text_writes_le` — a sink takes no more than its room;
* `CommandBot.Shell.Streams.overwrite_eq` — a file has the text where it was written;
* `CommandBot.Shell.Streams.remaining_write` — and it is read from there.
-/

import CommandBot.Proofs.FileTree
import CommandBot.Shell.Stream
import Mathlib.Data.List.Infix

set_option relaxedAutoImplicit false
set_option autoImplicit false

namespace CommandBot.Shell.Streams

variable {s : Streams} {i n : Nat} {t : Octets}

/-! ### Sinks -/

/-- What is written through something opened reaches a sink. -/
def Reaches (s : Streams) (i n : Nat) : Prop :=
  ∃ o, s.opened[i]? = some o ∧ o.isWritten = true ∧ o.channel = .sink n

/-- A sink has room for a text. -/
def HasRoom (s : Streams) (n : Nat) (t : Octets) : Prop :=
  ∃ sink, s.sinks[n]? = some sink ∧ ∀ room, sink.room = some room → t.length ≤ room

theorem write_of_reaches (h : s.Reaches i n) (t : Octets) : s.write i t = s.writeSink n t := by
  obtain ⟨o, hopened, hwritten, hchannel⟩ := h
  rw [write, hopened]
  dsimp only
  rw [hwritten, hchannel]
  rfl

theorem text_modify {sink : Sink} {f : Sink → Sink} (h : s.sinks[n]? = some sink)
    (hf : (f sink).pieces = t :: sink.pieces) :
    ({ s with sinks := s.sinks.modify n f }).text n = s.text n ++ t := by
  rw [text, text, Array.getElem?_modify, if_pos rfl, h]
  simp [hf]

/-- **A text that there is room for comes behind what was written before.** -/
theorem text_write (h : s.Reaches i n) (hroom : s.HasRoom n t) :
    (s.write i t).1 = .done ∧ (s.write i t).2.text n = s.text n ++ t := by
  obtain ⟨sink, hsink, hfits⟩ := hroom
  rw [write_of_reaches h, writeSink, hsink, Option.bind_some]
  cases hlimit : sink.room with
  | none => exact ⟨rfl, text_modify hsink rfl⟩
  | some room =>
      dsimp only
      rw [if_neg (Nat.not_lt.2 (hfits room hlimit))]
      exact ⟨rfl, text_modify hsink rfl⟩

/-- A text that there is no room for is lost as a whole. -/
theorem write_of_not_hasRoom (h : s.Reaches i n) (hsink : n < s.sinks.size)
    (hroom : ¬ s.HasRoom n t) : s.write i t = (.broken, s) := by
  rw [write_of_reaches h, writeSink, Array.getElem?_eq_getElem hsink, Option.bind_some]
  have hlimit : ∃ room, s.sinks[n].room = some room ∧ room < t.length := by
    refine not_forall_not.1 fun hnone => hroom ⟨_, Array.getElem?_eq_getElem hsink, ?_⟩
    intro room hlimit
    exact Nat.not_lt.1 fun hlt => hnone room ⟨hlimit, hlt⟩
  obtain ⟨room, hroom, hlt⟩ := hlimit
  rw [hroom]
  dsimp only
  rw [if_pos hlt]

theorem sinks_write_of_not_reaches (h : ¬ s.Reaches i n) :
    (s.write i t).2.sinks[n]? = s.sinks[n]? := by
  rw [write]
  cases hopened : s.opened[i]? with
  | none => rfl
  | some o =>
      dsimp only
      split
      · rfl
      · next hwritten =>
          split
          · next m hchannel =>
              have hne : m ≠ n := by
                rintro rfl
                exact h ⟨o, hopened, by simpa using hwritten, hchannel⟩
              rw [writeSink]
              split
              · simp [Array.getElem?_modify, hne]
              · split
                · rfl
                · simp [Array.getElem?_modify, hne]
          · rfl
          · rfl
          · rfl
          · rfl

/-- **What is written elsewhere does not reach a sink.** -/
theorem text_write_of_not_reaches (h : ¬ s.Reaches i n) : (s.write i t).2.text n = s.text n := by
  rw [text, sinks_write_of_not_reaches h, text]

theorem text_eq_nil_of_size_le (h : s.sinks.size ≤ n) : s.text n = [] := by
  rw [text, Array.getElem?_eq_none h]

/-- Nothing is taken back by one text. -/
theorem text_prefix_write (s : Streams) (i n : Nat) (t : Octets) :
    s.text n <+: (s.write i t).2.text n := by
  by_cases hreach : s.Reaches i n
  · by_cases hsink : n < s.sinks.size
    · by_cases hroom : s.HasRoom n t
      · rw [(text_write hreach hroom).2]
        exact List.prefix_append _ _
      · rw [write_of_not_hasRoom hreach hsink hroom]
    · rw [text_eq_nil_of_size_le (Nat.not_lt.1 hsink)]
      exact List.nil_prefix
  · rw [text_write_of_not_reaches hreach]

/-! ### One text after another -/

/-- Texts written one after another, each through something opened. -/
def writes (s : Streams) (texts : List (Nat × Octets)) : Streams :=
  texts.foldl (fun s text => (s.write text.1 text.2).2) s

/-- **Nothing is taken back**, whatever is written. -/
theorem text_prefix_writes (s : Streams) (texts : List (Nat × Octets)) (n : Nat) :
    s.text n <+: (s.writes texts).text n := by
  induction texts generalizing s with
  | nil => exact List.prefix_refl _
  | cons text rest ih => exact (s.text_prefix_write text.1 n text.2).trans (ih _)

/-- A sink that may still take so many octets of so many in all. -/
def IsWithin (s : Streams) (n limit : Nat) : Prop :=
  ∃ sink room, s.sinks[n]? = some sink ∧ sink.room = some room ∧
    (s.text n).length + room = limit

theorem IsWithin.write {limit : Nat} (h : s.IsWithin n limit) (i : Nat) (t : Octets) :
    (s.write i t).2.IsWithin n limit := by
  obtain ⟨sink, room, hsink, hroom, hlimit⟩ := h
  by_cases hreach : s.Reaches i n
  · have hwrite := write_of_reaches hreach t
    rw [writeSink, hsink, Option.bind_some, hroom] at hwrite
    dsimp only at hwrite
    split at hwrite
    · rw [hwrite]
      exact ⟨sink, room, hsink, hroom, hlimit⟩
    · next hfits =>
        have htext := (text_write hreach ⟨sink, hsink, fun room' hroom' => by
          rw [hroom] at hroom'
          cases hroom'
          exact Nat.not_lt.1 hfits⟩).2
        refine ⟨⟨t :: sink.pieces, some (room - t.length)⟩, room - t.length, ?_, rfl, ?_⟩
        · rw [hwrite]
          exact (Array.getElem?_modify).trans (by rw [if_pos rfl, hsink, Option.map_some])
        · rw [htext, List.length_append]
          omega
  · refine ⟨sink, room, ?_, hroom, ?_⟩
    · rw [sinks_write_of_not_reaches hreach, hsink]
    · rw [text_write_of_not_reaches hreach, hlimit]

theorem IsWithin.writes {limit : Nat} (h : s.IsWithin n limit) (texts : List (Nat × Octets)) :
    (s.writes texts).IsWithin n limit := by
  induction texts generalizing s with
  | nil => exact h
  | cons text rest ih => exact ih (h.write text.1 text.2)

/-- **A sink takes no more than its room.** -/
theorem length_text_writes_le {limit : Nat} (h : s.IsWithin n limit) (texts : List (Nat × Octets)) :
    ((s.writes texts).text n).length ≤ limit := by
  obtain ⟨sink, room, -, -, hlimit⟩ := h.writes texts
  omega

/-! ### Files -/

/-- **A file has the text where it was written**: what was before stays, with zeros in a gap, and so
does what comes behind. -/
theorem overwrite_eq {data text : List UInt8} {offset : Nat} :
    (overwrite data offset text).take offset =
        data.take offset ++ List.replicate (offset - data.length) 0 ∧
      ((overwrite data offset text).drop offset).take text.length = text ∧
      (overwrite data offset text).drop (offset + text.length) = data.drop (offset + text.length) := by
  have hfront : (data.take offset ++ List.replicate (offset - data.length) 0).length = offset := by
    rw [List.length_append, List.length_take, List.length_replicate]
    omega
  have hdrop : (overwrite data offset text).drop offset =
      text ++ data.drop (offset + text.length) := by
    rw [overwrite, List.append_assoc _ text, List.drop_left' hfront]
  refine ⟨?_, ?_, ?_⟩
  · rw [overwrite, List.append_assoc _ text, List.take_left' hfront]
  · rw [hdrop, List.take_left]
  · rw [← List.drop_drop, hdrop, List.drop_left]

/-- What is written at the end of a file comes behind it. -/
theorem overwrite_length (data text : List UInt8) :
    overwrite data data.length text = data ++ text := by
  rw [overwrite, List.take_length, Nat.sub_self, List.replicate_zero, List.append_nil,
    List.drop_eq_nil_of_le (Nat.le_add_right _ _), List.append_nil]

/-- The bytes of a file, if one lies at a place. -/
def bytesAt (s : Streams) (place : FileTree.Place) : List UInt8 :=
  match s.files.entry? place with
  | some (.file data) => data
  | _ => []

section Files

variable {o : Opened} {place : FileTree.Place}

theorem write_of_file (hopened : s.opened[i]? = some o) (hwritten : o.isWritten = true)
    (hchannel : o.channel = .file place) (t : Octets) :
    s.write i t = (.done, s.writeFile i o place t) := by
  rw [write, hopened]
  dsimp only
  rw [hwritten, hchannel]
  rfl

/-- **What is written through a file lies there**, and no other file changes. -/
theorem entry?_write (hopened : s.opened[i]? = some o) (hwritten : o.isWritten = true)
    (hchannel : o.channel = .file place) (t : Octets) (other : FileTree.Place) :
    FileTree.entry? (s.write i t).2.files other =
      if other = place then
        some (.file (overwrite (s.bytesAt place)
          (if o.appends then (s.bytesAt place).length else o.offset) (Octets.toBytes t)))
      else s.files.entry? other := by
  rw [write_of_file hopened hwritten hchannel]
  split
  · next heq =>
      rw [heq]
      exact FileTree.entry?_put_self _ _ _
  · next hne => exact FileTree.entry?_put_of_ne _ _ hne

/-- **What was written is read by whoever reads from there.** -/
theorem remaining_write (hopened : s.opened[i]? = some o) (hwritten : o.isWritten = true)
    (hchannel : o.channel = .file place) (happends : o.appends = false) (t : Octets)
    {reader : Opened} (hreads : reader.isRead = true) (hfile : reader.channel = .file place)
    (hplace : reader.offset = o.offset) :
    ((s.write i t).2.remaining reader).take t.length =
      Octets.ofBytes (Octets.toBytes t) := by
  have hentry := entry?_write hopened hwritten hchannel t place
  rw [if_pos rfl, happends] at hentry
  have hlength : (Octets.toBytes t).length = t.length := List.length_map _
  rw [remaining, hreads, hfile]
  dsimp only
  rw [if_neg (by simp), hentry]
  dsimp only
  rw [if_neg (by simp), hplace, Octets.ofBytes, ← List.map_take, ← hlength]
  exact congrArg Octets.ofBytes overwrite_eq.2.1

end Files

end CommandBot.Shell.Streams
