/-
  RenderDesk.Url.Authority
  ────────────────────────
  Reading what stands between two slashes and the path: a name and password,
  a host and a port.
-/
import RenderDesk.Url.Domain
import RenderDesk.Url.Url

namespace RenderDesk.Url

open RenderDesk.Text

/-! ## §1. Schemes. -/

/-- How a scheme's URLs are read. -/
inductive SchemeKind where
  | file
  /-- A scheme of the web, whose URLs have a host and may use backslashes. -/
  | web
  | other
  deriving Repr, DecidableEq

def SchemeKind.of (scheme : List Char) : SchemeKind :=
  if scheme = "file".toList then .file
  else if ["http", "https", "ws", "wss", "ftp"].any (·.toList = scheme) then .web
  else .other

def SchemeKind.isSpecial (k : SchemeKind) : Bool := k ≠ .other

def defaultPort (scheme : List Char) : Option Nat :=
  if scheme = "http".toList || scheme = "ws".toList then some 80
  else if scheme = "https".toList || scheme = "wss".toList then some 443
  else if scheme = "ftp".toList then some 21
  else none

/-- Whether a character is a slash in URLs of a kind. -/
def isSlash (k : SchemeKind) (c : Char) : Bool := c = '/' || (k.isSpecial && c = '\\')

/-! ## §2. Hosts. -/

/-- An address between brackets, when a host begins with one. -/
def bracketed (cs : List Char) : Except UrlError Host :=
  if cs.getLast? = some ']' then
    match v6? cs.tail.dropLast with
    | some pieces => .ok (.v6 pieces)
    | none => .error .invalidV6
  else .error .invalidV6

/-- The host of a special scheme. -/
def specialHost (cs : List Char) : Except UrlError Host :=
  if cs.head? = some '[' then bracketed cs
  else
    match asciiDomain (decode cs) with
    | none => .error .invalidDomain
    | some [] => .error .emptyHost
    | some domain =>
      if endsInNumber domain then
        match v4? domain with
        | some address => .ok (.v4 address)
        | none => .error .invalidV4
      else .ok (.name domain)

/-- What no host of another scheme may hold. -/
def isForbiddenInHost (c : Char) : Bool :=
  c.toNat == 0 || c.toNat == 9 || c.toNat == 10 || c.toNat == 13
    || " #/:<>?@[\\]^|".toList.contains c

/-- The host of another scheme. -/
def plainHost (cs : List Char) : Except UrlError Host :=
  if cs.head? = some '[' then bracketed cs
  else if cs.any isForbiddenInHost then .error .invalidHostCharacter
  else if cs.isEmpty then .ok .empty
  else .ok (.name (encode isControl cs))

def parseHost (k : SchemeKind) (cs : List Char) : Except UrlError Host :=
  match k with
  | .web => if cs.isEmpty then .error .emptyHost else specialHost cs
  | .file => specialHost cs
  | .other => plainHost cs

/-! ## §3. Ports. -/

/-- Reads digits up to a backslash; a number too large for a port is none. -/
def readPort (value : Nat) (some' : Bool) : List Char → Except UrlError (Option Nat × List Char)
  | [] => .ok (if some' then some value else none, [])
  | c :: cs =>
    if '0' ≤ c && c ≤ '9' then
      let value := value * 10 + (c.toNat - 48)
      if 65535 < value then .error .invalidPort else readPort value true cs
    else if c = '\\' then .ok (if some' then some value else none, c :: cs)
    else .error .invalidPort

/-- A port, unless it is the scheme's own. -/
def keptPort (scheme : List Char) (port : Option Nat) : Option Nat :=
  if port = defaultPort scheme then none else port

/-! ## §4. Credentials. -/

/-- What stands before and after the last at-sign. -/
def cutLastAt (cs : List Char) : Option (List Char × List Char) :=
  (cutAt '@' cs.reverse).map fun (after, before) => (before.reverse, after.reverse)

/-- A user name, and a password if it is not empty. -/
def readCredentials (cs : List Char) : List Char × Option (List Char) :=
  match cutAt ':' cs with
  | some (name, []) => (encode inUserSet name, none)
  | some (name, password) => (encode inUserSet name, some (encode inUserSet password))
  | none => (encode inUserSet cs, none)

/-- The host and what follows its colon, which brackets hide. -/
def cutHost (inBrackets : Bool) : List Char → List Char × Option (List Char)
  | [] => ([], none)
  | c :: cs =>
    if c = ':' && !inBrackets then ([], some cs)
    else
      let (host, port) := cutHost (c = '[' || (inBrackets && c ≠ ']')) cs
      (c :: host, port)

/-! ## §5. Authorities. -/

/-- The text before the first slash, and the rest. -/
def cutAuthority (k : SchemeKind) (cs : List Char) : List Char × List Char :=
  (cs.takeWhile (!isSlash k ·), cs.dropWhile (!isSlash k ·))

/-- Reads a host and a port; what is left is the start of the path. -/
def readHostPort (k : SchemeKind) (scheme cs : List Char) :
    Except UrlError (Host × Option Nat × List Char) := do
  let (host, port) := cutHost false cs
  let host ← parseHost k host
  match port with
  | none => return (host, none, [])
  | some port =>
    if host = .empty then .error .emptyHost
    else
      let (port, rest) ← readPort 0 false port
      return (host, keptPort scheme port, rest)

/-- Reads an authority and gives the path behind it; `last` says that neither
query nor fragment follows. -/
def readAuthority (k : SchemeKind) (scheme : List Char) (last : Bool) (cs : List Char) :
    Except UrlError (Authority × List Char) := do
  let (before, path) := cutAuthority k cs
  let (credentials, address) := match cutLastAt before with
    | some (credentials, address) => (some credentials, address)
    | none => (none, before)
  if credentials = some [] && address.isEmpty && !(path.isEmpty && last) then .error .emptyHost
  let (username, password) := readCredentials (credentials.getD [])
  let (host, port, rest) ← readHostPort k scheme address
  if host = .empty && !(username.isEmpty && password.isNone) then .error .emptyHost
  return (⟨username, password, host, port⟩, rest ++ path)

end RenderDesk.Url
