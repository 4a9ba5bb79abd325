/-
**Streams.**

A file that is opened has a place up to which it was read or written; all descriptors that were made
of one another share it.  Besides files there are sinks, which keep what is written to them, and
sources, which give a text once.

* `CommandBot.Shell.Channel`, `CommandBot.Shell.Opened` — what is read or written, and how far;
* `CommandBot.Shell.Intent` — what a path is opened for;
* `CommandBot.Shell.Streams` — everything that is opened;
* `CommandBot.Shell.Streams.openPath` — **a path is opened**;
* `CommandBot.Shell.Streams.readLine`, `CommandBot.Shell.Streams.readAll` — the next line, and all
  that remains;
* `CommandBot.Shell.Streams.write` — **a text is written.**
-/

import CommandBot.FileTree

set_option relaxedAutoImplicit false
set_option autoImplicit false

namespace CommandBot.Shell

/-! ### Channels -/

/-- What is read or written. -/
inductive Channel where
  /-- It keeps what is written to it. -/
  | sink (number : Nat)
  /-- It gives a text once. -/
  | source (number : Nat)
  | file (place : FileTree.Place)
  | directory
  | device (device : FileTree.Device)
deriving DecidableEq, Repr

/-- Something that is opened. -/
structure Opened where
  channel : Channel
  /-- The number of octets before the place that is read or written next. -/
  offset : Nat
  isRead : Bool
  isWritten : Bool
  /-- Every text is written at the end. -/
  appends : Bool

/-- What a path is opened for. -/
structure Intent where
  reads : Bool
  writes : Bool
  /-- A file is made if there is none. -/
  creates : Bool
  /-- There must be no file before. -/
  exclusive : Bool
  /-- What was in the file is lost. -/
  truncates : Bool
  appends : Bool

namespace Intent

/-- A file is read. -/
def read : Intent := ⟨true, false, false, false, false, false⟩

/-- A file is read and written. -/
def update : Intent := ⟨true, true, true, false, false, false⟩

/-- A file is written anew. -/
def write : Intent := ⟨false, true, true, false, true, false⟩

/-- A file is written that was not there before. -/
def writeNew : Intent := ⟨false, true, true, true, false, false⟩

/-- Something that is there is written. -/
def writeOver : Intent := ⟨false, true, false, false, false, false⟩

/-- A file is written from its end on. -/
def append : Intent := ⟨false, true, true, false, false, true⟩

end Intent

/-! ### Streams -/

/-- What was written to a sink. -/
structure Sink where
  /-- The pieces, in reverse. -/
  pieces : List Octets
  /-- The number of octets that may still be written, if there is a limit. -/
  room : Option Nat

/-- Everything that is opened, with the files. -/
structure Streams where
  files : FileTree
  opened : Array Opened
  sinks : Array Sink
  /-- What remains of each source. -/
  sources : Array Octets

/-- What comes of a text that is written. -/
inductive Written where
  | done
  /-- Nothing can be written there. -/
  | refused
  /-- Nobody will read it. -/
  | broken
deriving DecidableEq, Repr

namespace Streams

/-- The text that was written to a sink. -/
def text (s : Streams) (sink : Nat) : Octets :=
  match s.sinks[sink]? with
  | some sink => sink.pieces.reverse.flatten
  | none => []

/-! ### Opening -/

/-- Something more is opened; the result is its number. -/
def add (s : Streams) (o : Opened) : Nat × Streams :=
  (s.opened.size, { s with opened := s.opened.push o })

/-- A channel is opened for something. -/
def addChannel (s : Streams) (channel : Channel) (intent : Intent) : Nat × Streams :=
  s.add ⟨channel, 0, intent.reads, intent.writes, intent.appends⟩

/-- A new sink, opened for writing; the results are the numbers of the sink and of what is opened. -/
def addSink (s : Streams) (room : Option Nat) : Nat × Nat × Streams :=
  let n := s.sinks.size
  let (i, s) := s.addChannel (.sink n) .writeOver
  (n, i, { s with sinks := s.sinks.push ⟨[], room⟩ })

/-- A text as a new source, opened for reading. -/
def addSource (s : Streams) (text : Octets) : Nat × Streams :=
  let n := s.sources.size
  let (i, s) := s.addChannel (.source n) .read
  (i, { s with sources := s.sources.push text })

/-- The file at a place is opened. -/
def openFile (s : Streams) (place : FileTree.Place) (intent : Intent) :
    Except FileTree.Fault (Nat × Streams) :=
  let isThere := s.files.contains place
  if isThere && intent.exclusive then .error .taken
  else if !isThere && !intent.creates then .error .missing
  else if s.files.isDirectory place then
    if intent.writes then .error .isDirectory else .ok (s.addChannel .directory intent)
  else
    let s := if !isThere || intent.truncates then { s with files := s.files.write place [] } else s
    .ok (s.addChannel (.file place) intent)

/-- **A path is opened**, where the descriptors of the shell lead to something. -/
def openPath (s : Streams) (descriptors : Nat → Option Nat) (path : Octets) (intent : Intent) :
    Except FileTree.Fault (Nat × Streams) :=
  match s.files.resolve true path with
  | .error fault => .error fault
  | .ok place =>
      match s.files.entry? place with
      | some (.device (.descriptor n)) =>
          match (descriptors n).bind fun i => s.opened[i]? with
          | none => .error .missing
          | some ⟨.file place, _, _, _, _⟩ => s.openFile place intent
          | some o => .ok (s.addChannel o.channel intent)
      | some (.device .terminal) => .error .noDevice
      | some (.device device) => .ok (s.addChannel (.device device) intent)
      | _ => s.openFile place intent

/-! ### Reading -/

/-- What remains to be read. -/
def remaining (s : Streams) (o : Opened) : Octets :=
  if !o.isRead then []
  else
    match o.channel with
    | .source n => (s.sources[n]?).getD []
    | .file place =>
        match s.files.entry? place with
        | some (.file data) => Octets.ofBytes (data.drop o.offset)
        | _ => []
    | _ => []

/-- Some octets were read. -/
def pass (s : Streams) (i count : Nat) : Streams :=
  match s.opened[i]? with
  | none => s
  | some o =>
      match o.channel with
      | .source n => { s with sources := s.sources.modify n fun text => text.drop count }
      | _ => { s with opened := s.opened.modify i fun o => { o with offset := o.offset + count } }

/-- The next line of something opened, with the end of the line unless the text ends before. -/
def readLine (s : Streams) (i : Nat) : Octets × Streams :=
  match s.opened[i]? with
  | none => ([], s)
  | some o =>
      let (line, rest) := (s.remaining o).span fun c => c != '\n'
      let line := line ++ rest.take 1
      (line, s.pass i line.length)

/-- All that remains of something opened. -/
def readAll (s : Streams) (i : Nat) : Octets × Streams :=
  match s.opened[i]? with
  | none => ([], s)
  | some o =>
      let text := s.remaining o
      (text, s.pass i text.length)

/-! ### Writing -/

/-- The bytes of a file with some written at a place; a gap is filled with zeros. -/
def overwrite (data : List UInt8) (offset : Nat) (text : List UInt8) : List UInt8 :=
  data.take offset ++ List.replicate (offset - data.length) 0 ++ text ++
    data.drop (offset + text.length)

/-- A text is written to a file. -/
def writeFile (s : Streams) (i : Nat) (o : Opened) (place : FileTree.Place) (text : Octets) :
    Streams :=
  let data := match s.files.entry? place with
    | some (.file data) => data
    | _ => []
  let offset := if o.appends then data.length else o.offset
  { s with
    files := s.files.write place (overwrite data offset (Octets.toBytes text))
    opened := s.opened.modify i fun o => { o with offset := offset + text.length } }

/-- A text is written to a sink. -/
def writeSink (s : Streams) (n : Nat) (text : Octets) : Written × Streams :=
  match (s.sinks[n]?).bind Sink.room with
  | none =>
      (.done, { s with sinks := s.sinks.modify n fun k => { k with pieces := text :: k.pieces } })
  | some room =>
      if room < text.length then (.broken, s)
      else (.done, { s with
        sinks := s.sinks.modify n fun k => ⟨text :: k.pieces, some (room - text.length)⟩ })

/-- **A text is written.** -/
def write (s : Streams) (i : Nat) (text : Octets) : Written × Streams :=
  match s.opened[i]? with
  | none => (.refused, s)
  | some o =>
      if !o.isWritten then (.refused, s)
      else
        match o.channel with
        | .sink n => s.writeSink n text
        | .file place => (.done, s.writeFile i o place text)
        | .device .full => (.refused, s)
        | .device _ => (.done, s)
        | _ => (.refused, s)

end Streams

end CommandBot.Shell
