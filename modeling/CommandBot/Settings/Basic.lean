/-
**The settings of the bot.**

Settings come from named texts, such as the variables of the environment.  White space around a
value does not count, and a blank value counts as absent.  The command prefix is the exception: a
prefix of nothing but white space is refused, since no message could use it.

* `CommandBot.Settings` — the settings;
* `CommandBot.Settings.ofLookup` — the settings that a lookup of names gives;
* `CommandBot.SettingsError` — why there are none;
* `CommandBot.Settings.names` — the names that are looked up.
-/

import CommandBot.Text.Blank

set_option relaxedAutoImplicit false
set_option autoImplicit false

namespace CommandBot

/-- The settings of the bot. -/
structure Settings where
  /-- The token by which the bot proves itself to the chat service. -/
  authToken : String
  /-- What a message begins with if it is a command. -/
  commandPrefix : String
  /-- Whether the log is verbose. -/
  debug : Bool
  /-- Whether plain chat is sometimes answered. -/
  sillyReplies : Bool
  /-- The address of the store; without one nothing is kept. -/
  redisUrl : Option String
  /-- The password of the store. -/
  redisPassword : Option String
  /-- The key by which the bot proves itself to the image board. -/
  derpiApiKey : Option String
  /-- The directory of the files that the bot sends. -/
  assetsDir : String
deriving DecidableEq, Repr

/-- Why the settings cannot be used. -/
inductive SettingsError where
  /-- A setting that must be given is absent. -/
  | missing (name : String)
  /-- A setting still has the value of the example file. -/
  | placeholder (name : String)
  /-- A value is none of those that the setting may have. -/
  | invalidValue (name value : String)
deriving DecidableEq, Repr

/-- The wording of an error in the settings. -/
def SettingsError.message : SettingsError → String
  | .missing name => "missing required setting " ++ name
  | .placeholder name => name ++ " is still set to the placeholder value"
  | .invalidValue name value => "invalid value for " ++ name ++ ": '" ++ value ++ "'"

namespace Settings

/-! ### Names and defaults -/

/-- The names of all settings. -/
def names : List String :=
  ["DISCORD_AUTH_TOKEN", "COMMAND_PREFIX", "DEBUG_OUTPUT", "SILLY_COMMANDS", "REDIS_URL",
    "REDIS_PASSWORD", "DERPI_API_KEY", "ASSETS_DIR"]

/-- The token of the example file, which no bot has. -/
def placeholderToken : String := "YOUR_BOT_TOKEN_HERE"

/-- The prefix where none is given. -/
def defaultPrefix : String := "."

/-- The directory of files where none is given. -/
def defaultAssetsDir : String := "assets"

/-! ### Single settings -/

/-- A value without outer white space, or nothing if only white space was given. -/
def value? (lookup : String → Option String) (name : String) : Option String :=
  match lookup name with
  | none => none
  | some raw => if (Text.trim raw).isEmpty then none else some (Text.trim raw)

/-- The token, which must be given and must not be that of the example file. -/
def readToken (lookup : String → Option String) : Except SettingsError String :=
  match value? lookup "DISCORD_AUTH_TOKEN" with
  | none => .error (.missing "DISCORD_AUTH_TOKEN")
  | some token =>
      if token = placeholderToken then .error (.placeholder "DISCORD_AUTH_TOKEN") else .ok token

/-- The command prefix. -/
def readPrefix (lookup : String → Option String) : Except SettingsError String :=
  match lookup "COMMAND_PREFIX" with
  | none => .ok defaultPrefix
  | some raw =>
      if raw.isEmpty then .ok defaultPrefix
      else if (Text.trim raw).isEmpty then .error (.invalidValue "COMMAND_PREFIX" raw)
      else .ok (Text.trim raw)

/-- The spellings of a switch that is on and of one that is off, up to the case of letters. -/
def switch? (value : String) : Option Bool :=
  let lower := value.toLower
  if lower ∈ ["true", "1", "yes", "on"] then some true
  else if lower ∈ ["false", "0", "no", "off"] then some false
  else none

/-- A switch, which is on unless it is turned off. -/
def readSwitch (lookup : String → Option String) (name : String) : Except SettingsError Bool :=
  match value? lookup name with
  | none => .ok true
  | some value =>
      match switch? value with
      | some on => .ok on
      | none => .error (.invalidValue name value)

/-! ### All settings -/

/-- **The settings that a lookup of names gives.**  The token is read first, then the prefix and
the two switches; the first of them that cannot be used is reported. -/
def ofLookup (lookup : String → Option String) : Except SettingsError Settings := do
  let authToken ← readToken lookup
  let commandPrefix ← readPrefix lookup
  let debug ← readSwitch lookup "DEBUG_OUTPUT"
  let sillyReplies ← readSwitch lookup "SILLY_COMMANDS"
  return {
    authToken, commandPrefix, debug, sillyReplies
    redisUrl := value? lookup "REDIS_URL"
    redisPassword := value? lookup "REDIS_PASSWORD"
    derpiApiKey := value? lookup "DERPI_API_KEY"
    assetsDir := (value? lookup "ASSETS_DIR").getD defaultAssetsDir }

/-- Whether the bot keeps records. -/
def keepsRecords (s : Settings) : Bool := s.redisUrl.isSome

/-- The value under each name that a configuration came from, or would come from. -/
def lookup (s : Settings) (name : String) : Option String :=
  if name = "DISCORD_AUTH_TOKEN" then some s.authToken
  else if name = "COMMAND_PREFIX" then some s.commandPrefix
  else if name = "DEBUG_OUTPUT" then some (if s.debug then "true" else "false")
  else if name = "SILLY_COMMANDS" then some (if s.sillyReplies then "true" else "false")
  else if name = "REDIS_URL" then s.redisUrl
  else if name = "REDIS_PASSWORD" then s.redisPassword
  else if name = "DERPI_API_KEY" then s.derpiApiKey
  else if name = "ASSETS_DIR" then some s.assetsDir
  else none

end Settings

end CommandBot
