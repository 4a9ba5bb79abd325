/-
**A world to rehearse in.**

All services that the bot asks are played by values: the store by a faulty store, the image board by
the answer it will give, the files by a tree, the host by a function.  The world keeps the queries
that the image board got.

* `CommandBot.Rehearsal.World` — the world;
* `CommandBot.Rehearsal.World.answer` — what it answers;
* `CommandBot.Rehearsal.World.run` — **a program run in it.**
-/

import CommandBot.Bot.Request
import CommandBot.FileTree
import CommandBot.Rehearsal.FaultyStore

set_option relaxedAutoImplicit false
set_option autoImplicit false

namespace CommandBot.Rehearsal

/-- All that the bot may ask, played by values. -/
structure World where
  store : Option FaultyStore
  /-- What the image board answers to any query. -/
  board : Except BoardError (List String)
  files : FileTree
  /-- What a command line of the host leaves, and the files after it. -/
  host : String → FileTree → Host.Outcome × FileTree
  /-- What the role lookup gives. -/
  admin : Except CommandError Bool
  /-- The voice channel of the author. -/
  voice : Option UInt64
  /-- The queries that the image board got, in order. -/
  queries : List String

namespace World

/-- Why no request to the store can be answered. -/
def storeless : StoreError := .backend "there is no store"

/-- What the store of the world answers; without one every request fails. -/
def answerStore (r : StoreRequest) (w : World) : r.Answer × World :=
  match w.store with
  | none => (r.fail storeless, w)
  | some store =>
      let answered := FaultyStore.answer r store
      (answered.1, { w with store := some answered.2 })

/-- What a service of the world answers. -/
def answerService : (s : Service) → World → s.Answer × World
  | .store r, w => answerStore r w
  | .search query, w => (w.board, { w with queries := w.queries ++ [query] })
  | .shell line, w =>
      let (outcome, files) := w.host line w.files
      (outcome, { w with files })
  | .readFile path, w => (w.files.read? path, w)

/-- **What the world answers.** -/
def answer : (r : Request) → World → r.Answer × World
  | .service s, w => answerService s w
  | .authorIsAdmin, w => (w.admin, w)
  | .authorVoice, w => (w.voice, w)

/-- **A program run in the world.** -/
def run {α : Type} (p : Program Request.Answer α) (w : World) : α × World := p.run answer w

end World

end CommandBot.Rehearsal
