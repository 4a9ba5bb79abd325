/-
**What the commands do.**

Each command is a task: a program over the requests that ends with a reply or a failure.

* `CommandBot.Stats.embed` — a record as an embed;
* `CommandBot.Action.perform` — **the task of a command**;
* `CommandBot.Command.execute` — the same, behind the check that there is a store if one is
  needed.
-/

import CommandBot.Bot.Context
import CommandBot.Bot.Help
import CommandBot.Bot.Request
import CommandBot.Bot.Search
import CommandBot.FileTree

set_option relaxedAutoImplicit false
set_option autoImplicit false

namespace CommandBot

/-! ### The record of a user as an embed -/

namespace Stats

/-- The colour of the embed. -/
def color : UInt32 := 0xF5B942

/-- The fields of the embed. -/
def fields (r : UserRecord) : List EmbedField :=
  ⟨"Posts", r.posts.toNat.repr, true⟩ :: if r.bot then [⟨"Bot", "yes", true⟩] else []

/-- The line below the embed. -/
def footer (t : Timestamp) : String := "Last seen " ++ t.minuteText

/-- **A record as an embed.** -/
def embed (r : UserRecord) : Embed where
  title := some (r.username ++ "'s stats")
  description := none
  fields := fields r
  color := some color
  imageUrl := none
  footer := r.lastSeen.map footer

end Stats

/-! ### Single commands -/

namespace Action

/-- Answer, and note whether there was more in the message. -/
def pong (args : List String) : Task Reply :=
  Task.ok (.ofText (if args.isEmpty then "Pong!"
    else "Pong!\nAnd you included a message! Thanks <3"))

/-- List the commands, or explain the one that a verb invokes. -/
def explain (args : List String) (ctx : Context) : Task Reply :=
  match args with
  | [] => Task.ok (.ofText (Help.listing ctx.registry ctx.settings.commandPrefix))
  | verb :: _ =>
      match ctx.registry.resolve? verb with
      | some command => Task.ok (.ofText (Help.details command ctx.settings.commandPrefix))
      | none => Task.ok (.ofText "That isn't a valid command.")

/-- The reply to what the image board answered. -/
def searchReply (draw : Nat) : Except BoardError (List String) → Except CommandError Reply
  | .error e => .error (.board e)
  | .ok urls =>
      match Search.pick? draw urls with
      | some url => .ok (.ofText url)
      | none => .error .noResults

/-- Show one of the images that carry some tags. -/
def showImage (args : List String) (ctx : Context) : Task Reply :=
  if Search.isIdle args then Task.fail (.invalidArgs "No tags specified.")
  else
    .ask (.service (.search (Search.query args ctx.channel.nsfw))) fun found =>
      .done (searchReply ctx.draw found)

/-- Show what a command line of the host leaves. -/
def runLine (line : String) : Task Reply :=
  if (Text.trim line).isEmpty then Task.fail (.invalidArgs "No command specified.")
  else
    .ask (.service (.shell line)) fun outcome =>
      match Host.result outcome with
      | .ok output => Task.ok (.ofText (Host.fenced output))
      | .error e => Task.fail e

/-- Run a command line, if the author administers the server. -/
def runAsAdmin (args : List String) : Task Reply :=
  .ask .authorIsAdmin fun
    | .error e => Task.fail e
    | .ok admin => if admin then runLine (Search.line args) else Task.fail .permissionDenied

/-- What the bot cannot do. -/
def voiceUnsupported : CommandError := .unsupported "Voice isn't supported in this build."

/-- Find the author's voice channel. -/
def joinVoice (ctx : Context) : Task Reply :=
  if ctx.channel.guild.isNone then Task.fail (.invalidArgs "Voice only works in a server.")
  else
    .ask .authorVoice fun
      | none => Task.fail (.invalidArgs "You need to be in a voice channel first.")
      | some _ => Task.fail voiceUnsupported

/-- The name of the picture of the sun. -/
def sunFile : String := "sun.png"

/-- Send the picture of the sun. -/
def showSun (ctx : Context) : Task Reply :=
  .ask (.service (.readFile (FileTree.join ctx.settings.assetsDir sunFile))) fun
    | some data => Task.ok (.ofFile sunFile data)
    | none => Task.fail (.missingFile sunFile)

/-- The user whose record is shown: the first one mentioned, or else the author. -/
def target (ctx : Context) : User := ctx.mentions.headD ctx.author

/-- Show the record of a user. -/
def showRecord (ctx : Context) : Task Reply :=
  if ctx.hasStore then
    (Task.ofStore (Users.find (target ctx).id)).bind fun
      | .ok record => Task.ok (.ofEmbed (Stats.embed record))
      | .error e => Task.fail (.ofStore e)
  else Task.fail .storageDisabled

/-- **The task of a command.** -/
def perform (action : Action) (args : List String) (ctx : Context) : Task Reply :=
  match action with
  | .ping => pong args
  | .help => explain args ctx
  | .search => showImage args ctx
  | .shell => runAsAdmin args
  | .join => joinVoice ctx
  | .leave => Task.fail voiceUnsupported
  | .sun => showSun ctx
  | .posts => showRecord ctx
  | .canned reply => Task.ok reply

end Action

/-- **The task of a command, if it can be had**: one that needs a store fails without one. -/
def Command.execute (c : Command) (args : List String) (ctx : Context) : Task Reply :=
  if c.needsStore && !ctx.hasStore then Task.fail .storageDisabled else c.action.perform args ctx

end CommandBot
