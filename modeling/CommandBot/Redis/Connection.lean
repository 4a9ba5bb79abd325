/-
**How to reach the store.**

The address of the store is a locator.  It names a server in the network, with credentials and the
number of a database, or a socket in the file system, with all else in its query.  An address
without a scheme is that of a server.  A password given apart replaces the one in the address.

* `CommandBot.Redis.Connection` — how to reach the store;
* `CommandBot.Redis.ConnectionFault` — why an address is refused;
* `CommandBot.Redis.Connection.read` — **the connection that an address gives**;
* `CommandBot.Redis.Connection.ofUrl` — the same with a password given apart;
* `CommandBot.Redis.write` — the address of a server.
-/

import CommandBot.Failure
import CommandBot.Redis.Url

set_option relaxedAutoImplicit false
set_option autoImplicit false

namespace CommandBot.Redis

/-! ### Connections -/

/-- Where the store is. -/
inductive Address where
  /-- A server in the network. -/
  | server (host : String) (port : Nat)
  /-- A socket in the file system. -/
  | socket (path : String)
deriving DecidableEq, Repr

/-- An address as a log shows it. -/
def Address.text : Address → String
  | server host port => host ++ ":" ++ port.repr
  | socket path => path

/-- How to reach the store. -/
structure Connection where
  address : Address
  /-- The number of the database. -/
  database : Int
  username : Option String
  password : Option String
deriving DecidableEq, Repr

/-- Why an address is refused. -/
inductive ConnectionFault where
  /-- It is no locator, or one of a foreign scheme. -/
  | unreadable
  /-- It names no server. -/
  | missingHost
  /-- It asks for encryption. -/
  | encrypted
  /-- It names no socket. -/
  | missingPath
  /-- The number of the database is none. -/
  | database
  /-- The name of the user is no text. -/
  | username
  /-- The password is no text. -/
  | password
deriving DecidableEq, Repr

namespace ConnectionFault

/-- The cause of a refusal in words. -/
def text : ConnectionFault → String
  | unreadable => "Redis URL did not parse"
  | missingHost => "Missing hostname"
  | encrypted => "can't connect with TLS, the feature is not enabled"
  | missingPath => "Missing path"
  | database => "Invalid database number"
  | username => "Username is not valid UTF-8 string"
  | password => "Password is not valid UTF-8 string"

/-- A refusal as a failure of the store. -/
def toStoreError (f : ConnectionFault) : StoreError :=
  .backend (f.text ++ "- InvalidClientConfig")

end ConnectionFault

namespace Connection

/-! ### Parts of an address -/

/-- The port of a server that names none. -/
def defaultPort : Nat := 6379

/-- A text without slashes at its ends. -/
def trimSlashes (s : List Char) : List Char :=
  ((s.dropWhile fun c => c == '/').reverse.dropWhile fun c => c == '/').reverse

/-- The number of a database; an empty text names the first. -/
def readDatabase (s : List Char) : Except ConnectionFault Int :=
  if s.isEmpty then .ok 0
  else
    match Text.Decimal.readSigned? s with
    | some n => .ok n
    | none => .error .database

/-- A text with escapes, or nothing if it is empty. -/
def readEscaped (fault : ConnectionFault) (s : List Char) :
    Except ConnectionFault (Option String) :=
  if s.isEmpty then .ok none
  else
    match Text.Utf8.decode? (Text.Percent.decode s) with
    | some text => .ok (some (String.ofList text))
    | none => .error fault

/-! ### Servers -/

/-- The connection to a server. -/
def ofServer (u : Url) : Except ConnectionFault Connection := do
  let database ← readDatabase (trimSlashes u.path)
  let username ← readEscaped .username u.authority.username
  let password ← readEscaped .password u.authority.password
  let host := String.ofList u.authority.host
  return ⟨.server host (u.authority.port.getD defaultPort), database, username, password⟩

/-! ### Sockets -/

/-- The last two bytes of a path name a drive, which ends with a slash. -/
def endsWithDrive (path : List UInt8) : Bool :=
  match path.reverse with
  | mark :: letter :: _ :: _ =>
      (mark == 58 || mark == 124) && ((65 ≤ letter && letter ≤ 90) || (97 ≤ letter && letter ≤ 122))
  | _ => false

/-- The path of a socket in the file system of this host. -/
def socketPath? (u : Url) : Option String :=
  if u.path.head? = some '/' && (u.authority.host.isEmpty || u.authority.host == "localhost".toList)
  then
    let path := Text.Percent.decode u.path
    some (String.ofList (Text.Utf8.decodeLossy (if endsWithDrive path then path ++ [47] else path)))
  else none

/-- The last value under a name. -/
def lastValue? (name : String) (pairs : List (String × String)) : Option String :=
  pairs.reverse.lookup name

/-- The number of a database under a name; without one it is the first. -/
def readNamedDatabase : Option String → Except ConnectionFault Int
  | none => .ok 0
  | some text =>
      match Text.Decimal.readSigned? text.toList with
      | some n => .ok n
      | none => .error .database

/-- The connection to a socket. -/
def ofSocket (u : Url) : Except ConnectionFault Connection :=
  match socketPath? u with
  | none => .error .missingPath
  | some path => do
      let pairs := Text.Form.decode (u.query.getD [])
      let database ← readNamedDatabase (lastValue? "db" pairs)
      return ⟨.socket path, database, lastValue? "user" pairs, lastValue? "pass" pairs⟩

/-! ### Addresses -/

/-- The connection that a locator gives. -/
def ofLocator (u : Url) : Except ConnectionFault Connection :=
  if u.scheme = "redis".toList then
    if u.authority.host.isEmpty then .error .missingHost else ofServer u
  else if u.scheme = "rediss".toList then
    if u.authority.host.isEmpty then .error .missingHost else .error .encrypted
  else if u.scheme = "unix".toList ∨ u.scheme = "redis+unix".toList then ofSocket u
  else .error .unreadable

/-- What parts a scheme from an authority. -/
def schemeMark : List Char := "://".toList

/-- Whether a text has a part. -/
def hasPart (part : List Char) : List Char → Bool
  | [] => part.isEmpty
  | c :: rest => part.isPrefixOf (c :: rest) || hasPart part rest

/-- An address with a scheme. -/
def withScheme (s : List Char) : List Char :=
  if hasPart schemeMark s then s else "redis://".toList ++ s

/-- **The connection that an address gives.** -/
def read (address : String) : Except ConnectionFault Connection :=
  match Url.read? (withScheme address.toList) with
  | none => .error .unreadable
  | some u => ofLocator u

/-- **The connection that an address and a password give.** -/
def ofUrl (address : String) (password : Option String) : Except ConnectionFault Connection :=
  (read address).map fun c => { c with password := password <|> c.password }

end Connection

/-! ### Writing an address -/

/-- A byte that credentials show as it is: a letter, a digit or one of `-._~`. -/
def isUnreserved (b : UInt8) : Bool :=
  (48 ≤ b && b ≤ 57) || (65 ≤ b && b ≤ 90) || (97 ≤ b && b ≤ 122) ||
    b == 45 || b == 46 || b == 95 || b == 126

/-- Credentials as a text with escapes. -/
def escaped (s : String) : String :=
  String.ofList (Text.Percent.encode isUnreserved (Text.Utf8.bytes s.toList))

/-- The port after a host, if one is given. -/
def portPart : Option Nat → String
  | none => ""
  | some port => ":" ++ port.repr

/-- The number of a database after a port, if one is given. -/
def databasePart : Option Int → String
  | none => ""
  | some database => "/" ++ toString database

/-- The address of a server, without its scheme. -/
def writeBare (username password host : String) (port : Option Nat) (database : Option Int) :
    String :=
  escaped username ++ ":" ++ escaped password ++ "@" ++ host ++ portPart port ++
    databasePart database

/-- The address of a server. -/
def write (username password host : String) (port : Option Nat) (database : Option Int) : String :=
  "redis://" ++ writeBare username password host port database

end CommandBot.Redis
