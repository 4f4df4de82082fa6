/-
  RenderDesk.Url.Url
  ──────────────────
  A URL in its parts, and its text.
-/
import RenderDesk.Url.Address

namespace RenderDesk

namespace Url

/-! ## §1. The parts of a URL. -/

inductive Host where
  | empty
  | name (text : List Char)
  /-- Four bytes, as one number. -/
  | v4 (address : Nat)
  /-- Eight pieces of two bytes. -/
  | v6 (pieces : List Nat)
  deriving Repr, DecidableEq

/-- Who is asked, and where. -/
structure Authority where
  username : List Char := []
  /-- A password is never empty. -/
  password : Option (List Char) := none
  host : Host := .empty
  /-- The port, unless it is the scheme's own. -/
  port : Option Nat := none
  deriving Repr, DecidableEq

inductive Route where
  /-- Parts with a slash in front of each. -/
  | segments (parts : List (List Char))
  /-- A text that nothing can be relative to. -/
  | fixed (text : List Char)
  deriving Repr, DecidableEq

end Url

structure Url where
  /-- The scheme, in small letters. -/
  scheme : List Char
  /-- What stands behind two slashes, if they are there. -/
  authority : Option Url.Authority
  route : Url.Route
  query : Option (List Char) := none
  fragment : Option (List Char) := none
  deriving Repr, DecidableEq

namespace Url

/-! ## §2. The text of a URL. -/

def Host.text : Host → List Char
  | .empty => []
  | .name text => text
  | .v4 address => v4Text address
  | .v6 pieces => '[' :: v6Text pieces ++ [']']

/-- A separator and a part, when the part is there. -/
def optionalPart (separator : Char) : Option (List Char) → List Char
  | some part => separator :: part
  | none => []

def Authority.credentials (a : Authority) : List Char :=
  if a.username.isEmpty && a.password.isNone then []
  else a.username ++ optionalPart ':' a.password ++ ['@']

def Authority.text (a : Authority) : List Char :=
  a.credentials ++ a.host.text ++ optionalPart ':' (a.port.map (Nat.toDigits 10))

/-- The text of a path. -/
def Route.text : Route → List Char
  | .segments parts => parts.flatMap ('/' :: ·)
  | .fixed text => text

/-- What stands between the scheme's colon and the path: two slashes and the
authority, or what keeps a path from looking like one. -/
def lead (u : Url) : List Char :=
  match u.authority, u.route with
  | some a, _ => '/' :: '/' :: a.text
  | none, .segments ([] :: _ :: _) => ['/', '.']
  | none, _ => []

/-- A URL without its query and fragment. -/
def front (u : Url) : List Char := u.scheme ++ ':' :: u.lead ++ u.route.text

def chars (u : Url) : List Char :=
  u.front ++ optionalPart '?' u.query ++ optionalPart '#' u.fragment

def text (u : Url) : String := String.ofList u.chars

/-! ## §3. Why a text is no URL. -/

inductive UrlError where
  | emptyHost
  | invalidPort
  | invalidV4
  | invalidV6
  | invalidHostCharacter
  | invalidDomain
  | noBase
  /-- The base is of a kind that nothing can be relative to. -/
  | fixedBase
  deriving Repr, DecidableEq

def UrlError.text : UrlError → String
  | .emptyHost => "empty host"
  | .invalidPort => "invalid port number"
  | .invalidV4 => "invalid IPv4 address"
  | .invalidV6 => "invalid IPv6 address"
  | .invalidHostCharacter => "invalid domain character"
  | .invalidDomain => "invalid international domain name"
  | .noBase => "relative URL without a base"
  | .fixedBase => "relative URL with a cannot-be-a-base base"

end Url

end RenderDesk
