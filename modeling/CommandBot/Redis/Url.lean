/-
**Locators.**

A locator names a scheme, an authority with credentials, a host and a port, a path and a query.
Here are locators whose scheme has no rules of its own: the host keeps its letters, and the path is
taken as it stands but for its dots.  Control characters and spaces around a locator do not count,
nor do tabs and line ends in it.

* `CommandBot.Redis.Url` — a locator;
* `CommandBot.Redis.Url.read?` — **the locator that a text is**;
* `CommandBot.Redis.Url.readAuthority?` — credentials, host and port;
* `CommandBot.Redis.Url.resolveDots` — a path with its dots resolved.
-/

import CommandBot.Redis.Ipv6
import CommandBot.Text.Cut
import CommandBot.Text.Percent

set_option relaxedAutoImplicit false
set_option autoImplicit false

namespace CommandBot.Redis

/-- Who asks, and where. -/
structure Authority where
  /-- The name of the user with its escapes; it is empty if there is none. -/
  username : List Char
  /-- The password with its escapes; it is empty if there is none. -/
  password : List Char
  /-- The host; it is empty if there is none. -/
  host : List Char
  port : Option Nat
deriving DecidableEq, Repr

/-- The authority of a locator without one. -/
def Authority.absent : Authority := ⟨[], [], [], none⟩

/-- A locator. -/
structure Url where
  /-- The scheme in small letters. -/
  scheme : List Char
  authority : Authority
  /-- The path with its escapes. -/
  path : List Char
  /-- The query with its escapes, if there is one. -/
  query : Option (List Char)
deriving DecidableEq, Repr

namespace Url

/-! ### Characters -/

/-- A control character of ASCII or a space. -/
def isOuter (c : Char) : Bool := c ≤ ' '

/-- A tab or a line end. -/
def isIgnored (c : Char) : Bool := c == '\t' || c == '\n' || c == '\r'

/-- The characters of a text that count. -/
def significant (s : List Char) : List Char :=
  (((s.dropWhile isOuter).reverse.dropWhile isOuter).reverse).filter fun c => !isIgnored c

/-- A character that ends an authority. -/
def endsAuthority (c : Char) : Bool := c == '/' || c == '?' || c == '#'

/-- A character that ends a path. -/
def endsPath (c : Char) : Bool := c == '?' || c == '#'

/-- A character that no host has. -/
def isForbidden (c : Char) : Bool := "\x00\t\n\r #/:<>?@[\\]^|".toList.contains c

/-- A byte that a host shows as it is. -/
def isPrintable (b : UInt8) : Bool := 32 ≤ b && b ≤ 126

/-! ### The scheme -/

/-- A character of a scheme after its first. -/
def isSchemeChar (c : Char) : Bool := c.isAlphanum || c == '+' || c == '-' || c == '.'

/-- A scheme begins with a letter. -/
def isScheme : List Char → Bool
  | [] => false
  | c :: rest => c.isAlpha && rest.all isSchemeChar

/-- The scheme in small letters, and what follows it. -/
def readScheme? (s : List Char) : Option (List Char × List Char) :=
  match Text.splitAtFirst? ':' s with
  | none => none
  | some (scheme, rest) => if isScheme scheme then some (scheme.map Char.toLower, rest) else none

/-! ### The authority -/

/-- The parts before and after the last `mark`, or nothing if there is none. -/
def splitAtLast? (mark : Char) (s : List Char) : Option (List Char × List Char) :=
  (Text.splitAtFirst? mark s.reverse).map fun parts => (parts.2.reverse, parts.1.reverse)

/-- The name and the password in credentials; each may be empty. -/
def readCredentials (s : List Char) : List Char × List Char :=
  match Text.splitAtFirst? ':' s with
  | none => (s, [])
  | some parts => parts

/-- The host, and what follows the first colon outside of brackets, if there is one. -/
def splitHost (bracketed : Bool) : List Char → List Char × Option (List Char)
  | [] => ([], none)
  | c :: rest =>
      if c = ':' ∧ bracketed = false then ([], some rest)
      else
        let parts := splitHost (c = '[' || (bracketed && c != ']')) rest
        (c :: parts.1, parts.2)

/-- A host as it is shown: an address in brackets, or a name. -/
def readHost? : List Char → Option (List Char)
  | '[' :: rest =>
      if rest.getLast? = some ']' then (Ipv6.read? rest.dropLast).map Ipv6.text else none
  | name =>
      if name.any isForbidden then none
      else some (Text.Percent.encode isPrintable (Text.Utf8.bytes name))

/-- The port, if digits give one, and what follows them.  Only a backslash may follow. -/
def readPort? (s : List Char) : Option (Option Nat × List Char) :=
  let digits := s.takeWhile Char.isDigit
  let rest := s.dropWhile Char.isDigit
  if rest.isEmpty || rest.head? = some '\\' then
    match Text.Decimal.readDigits? digits with
    | none => some (none, rest)
    | some n => if n < 65536 then some (some n, rest) else none
  else none

/-- The host and the port, and what follows them.  A port needs a host. -/
def readHostPort? (s : List Char) : Option (List Char × Option Nat × List Char) :=
  match splitHost false s with
  | (host, none) => (readHost? host).map fun host => (host, none, [])
  | (host, some rest) =>
      match readHost? host, readPort? rest with
      | some host, some (port, rest) => if host.isEmpty then none else some (host, port, rest)
      | _, _ => none

/-- The authority that credentials, a host and a port make.  Credentials need a host. -/
def makeAuthority? (credentials hostPort : List Char) : Option (Authority × List Char) :=
  match readHostPort? hostPort with
  | none => none
  | some (host, port, rest) =>
      let (username, password) := readCredentials credentials
      if host.isEmpty && !(username.isEmpty && password.isEmpty) then none
      else some (⟨username, password, host, port⟩, rest)

/-- **Credentials, host and port**, and what follows them. -/
def readAuthority? (s : List Char) : Option (Authority × List Char) :=
  let text := s.takeWhile fun c => !endsAuthority c
  let rest := s.dropWhile fun c => !endsAuthority c
  let read := match splitAtLast? '@' text with
    | none => makeAuthority? [] text
    | some (credentials, hostPort) =>
        if credentials.isEmpty && hostPort.isEmpty && !rest.isEmpty then none
        else makeAuthority? credentials hostPort
  read.map fun (authority, left) => (authority, left ++ rest)

/-! ### The path -/

/-- The spellings of a dot in a path. -/
def readDot? : List Char → Option (List Char)
  | '.' :: rest => some rest
  | '%' :: '2' :: e :: rest => if e = 'e' ∨ e = 'E' then some rest else none
  | _ => none

/-- The segment that means the place itself. -/
def isDot (segment : List Char) : Bool := readDot? segment == some []

/-- The segment that means the place above. -/
def isDoubleDot (segment : List Char) : Bool :=
  match readDot? segment with
  | some rest => isDot rest
  | none => false

/-- A segment that names a drive, which is never left. -/
def isDrive : List Char → Bool
  | [letter, mark] => letter.isAlpha && (mark == ':' || mark == '|')
  | _ => false

/-- The segments without the last, unless that names a drive. -/
def climb (segments : List (List Char)) : List (List Char) :=
  match segments.getLast? with
  | some last => if isDrive last then segments else segments.dropLast
  | none => []

/-- The segments after those before them, with dots resolved.  A dot at the end leaves an empty
segment, so that the path ends with a slash. -/
def resolve (before : List (List Char)) : List (List Char) → List (List Char)
  | [] => before
  | segment :: rest =>
      let place := if isDoubleDot segment then climb before else before
      -- a dot at the very end leaves its slash behind
      if isDoubleDot segment || isDot segment then
        resolve (if rest.isEmpty then place ++ [[]] else place) rest
      else resolve (place ++ [segment]) rest

/-- **A path with its dots resolved**, without the slash that it begins with. -/
def resolveDots (s : List Char) : List Char := ['/'].intercalate (resolve [] (s.splitOn '/'))

/-- A path after an authority; without a slash at its start it gets one. -/
def hostedPath : List Char → List Char
  | [] => []
  | '/' :: rest => '/' :: resolveDots rest
  | s => '/' :: resolveDots s

/-- A path without an authority; without a slash at its start it is taken as it is. -/
def barePath : List Char → List Char
  | '/' :: rest => '/' :: resolveDots rest
  | s => s

/-! ### Locators -/

/-- The query that follows a path. -/
def readQuery? : List Char → Option (List Char)
  | '?' :: rest => some (rest.takeWhile fun c => c != '#')
  | _ => none

/-- The locator with a scheme and an authority, and what follows them. -/
def make (scheme : List Char) (authority : Authority) (path : List Char → List Char)
    (s : List Char) : Url where
  scheme := scheme
  authority := authority
  path := path (s.takeWhile fun c => !endsPath c)
  query := readQuery? (s.dropWhile fun c => !endsPath c)

/-- The locator with a scheme, from what follows the colon. -/
def readAfterScheme? (scheme : List Char) : List Char → Option Url
  | '/' :: '/' :: rest =>
      (readAuthority? rest).map fun (authority, rest) => make scheme authority hostedPath rest
  | rest => some (make scheme .absent barePath rest)

/-- **The locator that a text is.** -/
def read? (s : List Char) : Option Url :=
  match readScheme? (significant s) with
  | none => none
  | some (scheme, rest) => readAfterScheme? scheme rest

end Url

end CommandBot.Redis
