/-
**A rehearsal.**

A rehearsal is a sequence of steps in one world: messages, single commands, operations on records,
and hands laid on the store behind the bot's back.  Each step is reported with what came of it, the
queries it sent and the store after it.

* `CommandBot.Rehearsal.Scene` — who sends a message, where, and what the world has ready for it;
* `CommandBot.Rehearsal.Step`, `CommandBot.Rehearsal.Finding` — a step and what comes of it;
* `CommandBot.Rehearsal.Session.step` — **one step**;
* `CommandBot.Rehearsal.Session.steps` — all steps with their reports;
* `CommandBot.Rehearsal.Session.picks` — the texts that many draws of a search lead to.
-/

import CommandBot.Bot.Respond
import CommandBot.Rehearsal.Template
import CommandBot.Rehearsal.World

set_option relaxedAutoImplicit false
set_option autoImplicit false

namespace CommandBot.Rehearsal

/-! ### Steps -/

/-- Who sends a message, where, and what the world has ready for it. -/
structure Scene where
  author : User
  channel : Channel
  mentions : List User
  board : Except BoardError (List String)
  admin : Except CommandError Bool
  voice : Option UInt64

/-- A step of a rehearsal. -/
inductive Step where
  /-- A message is answered. -/
  | message (scene : Scene) (text : String)
  /-- The command of a verb is executed. -/
  | run (scene : Scene) (verb : String) (args : List String)
  /-- The command of a verb is performed without a look at what it needs. -/
  | handle (scene : Scene) (verb : String) (args : List String)
  /-- The record of a user is read. -/
  | find (id : UInt64)
  /-- The record of a user is read, and made if that is wished and there is none. -/
  | get (user : User) (createMissing : Bool)
  /-- The record of a user is changed. -/
  | set (id : UInt64) (update : UserUpdate)
  /-- One more command of a user is recorded. -/
  | recordPost (user : User)
  /-- Fields are written behind the bot's back. -/
  | write (key : String) (fields : List (String × String))
  /-- A key is removed behind the bot's back. -/
  | remove (key : String)
  /-- A fault is planted. -/
  | plant (fault : Fault)

/-- What comes of a step. -/
inductive Finding where
  /-- The reply that was sent, if one was. -/
  | sent (reply : Option Reply)
  /-- The result of a command. -/
  | performed (result : Except CommandError Reply)
  /-- No command declares the verb. -/
  | unknownVerb
  /-- The result of an operation that gives a record. -/
  | record (result : Except StoreError UserRecord)
  /-- The result of an operation that gives nothing. -/
  | written (result : Except StoreError Unit)
  /-- The operation needs a store, and there is none. -/
  | noStore
  /-- The step was taken. -/
  | taken
  /-- Whether the key was there. -/
  | existed (answer : Bool)

/-- What is reported of a step. -/
structure Report where
  finding : Finding
  /-- The queries that the image board got in this step. -/
  queries : List String
  /-- The store after the step. -/
  store : Option FaultyStore

/-! ### Sessions -/

/-- What stays the same in a rehearsal, with the store and the files. -/
structure Session where
  settings : Settings
  registry : Registry
  files : FileTree
  host : String → FileTree → Host.Outcome × FileTree
  now : Timestamp
  draw : Nat
  store : Option FaultyStore

namespace Session

/-- The world that a scene is played in. -/
def world (s : Session) (scene : Scene) : World where
  store := s.store
  board := scene.board
  files := s.files
  host := s.host
  admin := scene.admin
  voice := scene.voice
  queries := []

/-- What the bot knows of a scene. -/
def context (s : Session) (scene : Scene) : Context where
  settings := s.settings
  registry := s.registry
  author := scene.author
  channel := scene.channel
  mentions := scene.mentions
  hasStore := s.store.isSome
  now := s.now
  draw := s.draw

/-- A program played in a scene. -/
def play {α : Type} (s : Session) (scene : Scene) (p : Program Request.Answer α)
    (finding : α → Finding) : Report × Session :=
  let played := (s.world scene).run p
  (⟨finding played.1, played.2.queries, played.2.store⟩,
    { s with store := played.2.store, files := played.2.files })

/-- A step that touches the store at most. -/
def settle (s : Session) (finding : Finding) (store : Option FaultyStore) : Report × Session :=
  (⟨finding, [], store⟩, { s with store })

/-- An operation on records. -/
def operate {α : Type} (s : Session) (p : Program StoreRequest.Answer α)
    (finding : α → Finding) : Report × Session :=
  match s.store with
  | none => s.settle .noStore none
  | some store =>
      let operated := p.run FaultyStore.answer store
      s.settle (finding operated.1) (some operated.2)

/-- What the bot knows of a scene with a message. -/
def contextFor (s : Session) (scene : Scene) (text : String) : Context :=
  { s.context scene with
    registry := Template.registryFor s.settings.commandPrefix text s.registry }

/-- The command of a verb, played in a scene with some arguments. -/
def playVerb (s : Session) (scene : Scene) (verb : String) (args : List String)
    (task : Command → Task Reply) : Report × Session :=
  match (Template.registry args s.registry).resolve? verb with
  | none => s.settle .unknownVerb s.store
  | some command => s.play scene (task command) .performed

/-- Hands laid on the hashes of the store. -/
def tamper (store : Option FaultyStore) (f : Store → Store) : Option FaultyStore :=
  store.map fun store => { store with hashes := f store.hashes }

/-- **One step.** -/
def step (s : Session) : Step → Report × Session
  | .message scene text => s.play scene (respond (s.contextFor scene text) text) .sent
  | .run scene verb args =>
      s.playVerb scene verb args fun command => command.execute args (s.context scene)
  | .handle scene verb args =>
      s.playVerb scene verb args fun command => command.action.perform args (s.context scene)
  | .find id => s.operate (Users.find id) .record
  | .get user createMissing => s.operate (Users.get s.now user createMissing) .record
  | .set id update => s.operate (Users.set id update) .written
  | .recordPost user => s.operate (Users.recordPost s.now user) .record
  | .write key fields => s.settle .taken (tamper s.store fun hashes => hashes.write key fields)
  | .remove key =>
      s.settle (.existed ((s.store.map fun store => store.hashes.contains key).getD false))
        (tamper s.store fun hashes => hashes.erase key)
  | .plant fault => s.settle .taken (s.store.map fun store => store.plant fault)

/-- **All steps with their reports.** -/
def steps (s : Session) : List Step → List Report
  | [] => []
  | a :: rest => (s.step a).1 :: (s.step a).2.steps rest

/-! ### Many draws -/

/-- The set of texts, sorted, with one more. -/
def insertText (text : String) : List String → List String
  | [] => [text]
  | t :: rest =>
      if text = t then t :: rest
      else if text < t then text :: t :: rest
      else t :: insertText text rest

/-- The texts that a command leads to with the draws below a bound, sorted. -/
def picks (s : Session) (scene : Scene) (action : Action) (args : List String) :
    Nat → Except CommandError (List String)
  | 0 => .ok []
  | n + 1 =>
      match ((s.world scene).run (action.perform args { s.context scene with draw := n })).1 with
      | .error e => .error e
      | .ok reply => (picks s scene action args n).map (insertText reply.text)

end Session

end CommandBot.Rehearsal
