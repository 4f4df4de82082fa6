/-
  RenderDesk.Url.Parse
  ────────────────────
  Reading a URL, alone or relative to a base.

  A text is first cut into what stands before its query, the query and the
  fragment; only the first of these is read against the base.

  Main statement: `split_of_front` — a text without the marks of a query and of
  a fragment is not cut.
-/
import RenderDesk.Text.Blank
import RenderDesk.Url.Segments

namespace RenderDesk.Url

open RenderDesk.Text

/-! ## §1. Cutting a text. -/

/-- A text that names a URL: what stands before query and fragment, and those. -/
structure Reference where
  front : List Char
  query : Option (List Char) := none
  fragment : Option (List Char) := none
  deriving Repr, DecidableEq

/-- Controls and spaces, which do not count at the ends of a text. -/
def isIgnoredAtEnds (c : Char) : Bool := c.toNat ≤ 0x20

/-- Tabs and line ends, which do not count anywhere. -/
def isIgnored (c : Char) : Bool := c = '\t' || c = '\n' || c = '\r'

/-- The characters of a text that count. -/
def cleaned (cs : List Char) : List Char :=
  (trimBoth isIgnoredAtEnds cs).filter (!isIgnored ·)

def splitQuery (cs : List Char) : List Char × Option (List Char) :=
  match cutAt '?' cs with
  | some (front, query) => (front, some query)
  | none => (cs, none)

def split (cs : List Char) : Reference :=
  match cutAt '#' cs with
  | some (rest, fragment) =>
    let (front, query) := splitQuery rest
    { front, query, fragment := some fragment }
  | none =>
    let (front, query) := splitQuery cs
    { front, query }

/-- Whether nothing follows the front. -/
def Reference.isFrontOnly (r : Reference) : Bool := r.query.isNone && r.fragment.isNone

/-- A query as it is kept. -/
def Reference.keptQuery (r : Reference) (k : SchemeKind) : Option (List Char) :=
  r.query.map (encode (inQuerySet k.isSpecial))

def Reference.keptFragment (r : Reference) : Option (List Char) :=
  r.fragment.map (encode inFragmentSet)

/-! ## §2. Schemes. -/

def isSchemeChar (c : Char) : Bool := c.isAlphanum || c = '+' || c = '-' || c = '.'

/-- A scheme and what stands behind its colon. -/
def cutScheme (cs : List Char) : Option (List Char × List Char) :=
  match cutAt ':' cs with
  | some (scheme, rest) =>
    if scheme.head?.any Char.isAlpha && scheme.all isSchemeChar then
      some (scheme.map Char.toLower, rest)
    else none
  | none => none

/-! ## §3. Reading behind a scheme. -/

/-- What a front gives: everything but query and fragment. -/
structure Front where
  scheme : List Char
  authority : Option Authority
  route : Route
  deriving Repr, DecidableEq

def toFront (u : Url) : Front := ⟨u.scheme, u.authority, u.route⟩

/-- Both kinds of slashes, which count alike where no host is being read. -/
def isAnySlash (c : Char) : Bool := c = '/' || c = '\\'

/-- Reads what stands behind two slashes. -/
def readAfterSlashes (k : SchemeKind) (scheme : List Char) (last : Bool) (cs : List Char) :
    Except UrlError Front := do
  let (authority, path) ← readAuthority k scheme last cs
  return ⟨scheme, some authority, .segments (readPathStart k path)⟩

/-- Reads a URL of a scheme that is not special. -/
def readOther (scheme : List Char) (last : Bool) : List Char → Except UrlError Front
  | '/' :: '/' :: rest => readAfterSlashes .other scheme last rest
  | '/' :: rest => .ok ⟨scheme, none, .segments (readPath .other [] rest)⟩
  | cs => .ok ⟨scheme, none, .fixed (encode isControl cs)⟩

/-! ## §4. Files. -/

def fileScheme : List Char := "file".toList

/-- A file's path behind parts that are there already. -/
def fileAt (host : Host) (before : List (List Char)) (cs : List Char) : Front :=
  ⟨fileScheme, some { host }, .segments (readPath .file before cs)⟩

/-- A file's path from the root, without a host. -/
def localFile (cs : List Char) : Front :=
  ⟨fileScheme, some {}, .segments (readPathStart .file cs)⟩

/-- Whether a text begins with the letter of a drive as its first part. -/
def startsWithDrive (cs : List Char) : Bool :=
  isLooseDrive (cs.take 2) && (cs.drop 2).head?.all fun c => isAnySlash c

/-- The letter of the base's drive, or else its host. -/
def baseRoot (base : Option Front) (cs : List Char) : Host × List (List Char) :=
  if startsWithDrive cs then (.empty, [])
  else
    match base with
    | some ⟨_, authority, .segments (first :: _)⟩ =>
      if isDrive first then (.empty, [first]) else ((authority.map (·.host)).getD .empty, [])
    | some ⟨_, authority, _⟩ => ((authority.map (·.host)).getD .empty, [])
    | none => (.empty, [])

/-- Reads a file's host and path behind two slashes. -/
def readFileHost (cs : List Char) : Except UrlError Front := do
  let host := cs.takeWhile (!isAnySlash ·)
  let path := cs.dropWhile (!isAnySlash ·)
  if isLooseDrive host then return localFile cs
  else if host.isEmpty then return localFile path
  else
    match ← specialHost host with
    | .name name =>
      if name = "localhost".toList then return localFile path
      else return hosted (.name name) path
    | host => return hosted host path
where
  /-- A path behind a host; the letter of a drive drives the host away. -/
  hosted (host : Host) (path : List Char) : Front :=
    let parts := readPathStart .file path
    let drive := match rawParts .file path.tail with
      | first :: _ => isLooseDrive first
      | [] => false
    ⟨fileScheme, some { host := if drive then .empty else host }, .segments parts⟩

/-- Reads a file's URL, perhaps relative to another file's. -/
def readFile (base : Option Front) (cs : List Char) : Except UrlError Front :=
  match cs with
  | c :: d :: rest =>
    if isAnySlash c && isAnySlash d then readFileHost rest
    else if isAnySlash c then .ok (rooted (d :: rest)) else .ok (relative cs)
  | [c] => if isAnySlash c then .ok (rooted []) else .ok (relative cs)
  | [] => .ok (relative [])
where
  /-- A path from the root of the base's drive or host. -/
  rooted (cs : List Char) : Front :=
    let (host, before) := baseRoot base cs
    fileAt host before cs
  /-- A path beside the base's. -/
  relative (cs : List Char) : Front :=
    match base with
    | some ⟨scheme, authority, .segments parts⟩ =>
      if cs.isEmpty then ⟨scheme, authority, .segments parts⟩
      else if startsWithDrive cs then localFile cs
      else ⟨scheme, authority, .segments (readPath .file (goUp .file parts) cs)⟩
    | _ => localFile cs

/-! ## §5. Reading against a base. -/

/-- Reads a front against a base that is no file. -/
def readRelative (base : Front) (parts : List (List Char)) (last : Bool) (cs : List Char) :
    Except UrlError Front :=
  let k := SchemeKind.of base.scheme
  let slashes := cs.takeWhile isAnySlash
  match slashes with
  | [] =>
    let parts := readPath k parts.dropLast cs
    .ok { base with route := .segments parts }
  | [_] => .ok { base with route := .segments (readPath k [] cs.tail) }
  | _ =>
    match cs with
    | '/' :: '/' :: rest => readAfterSlashes k base.scheme last rest
    | _ => readAfterSlashes k base.scheme last (cs.dropWhile isAnySlash)

/-- Reads a URL with a scheme. -/
def readWithScheme (base : Option Url) (scheme : List Char) (last : Bool) (rest : List Char) :
    Except UrlError Front :=
  match SchemeKind.of scheme with
  | .file => readFile ((base.filter (·.scheme = fileScheme)).map toFront) rest
  | .other => readOther scheme last rest
  | .web =>
    let absolute := readAfterSlashes .web scheme last (rest.dropWhile isAnySlash)
    match base with
    | some base =>
      match base.route with
      | .segments parts =>
        if base.scheme = scheme && (rest.takeWhile isAnySlash).length < 2 then
          if rest.isEmpty then .ok base.toFront
          else readRelative base.toFront parts last rest
        else absolute
      | .fixed _ => absolute
    | none => absolute

/-- Reads a front without a scheme. -/
def readWithoutScheme (base : Option Url) (last : Bool) (front : List Char) :
    Except UrlError Front :=
  match base with
  | none => .error .noBase
  | some base =>
    match base.route with
    | .fixed _ => .error .fixedBase
    | .segments parts =>
      if front.isEmpty then .ok base.toFront
      else if base.scheme = fileScheme then readFile (some base.toFront) front
      else readRelative base.toFront parts last front

/-! ## §6. URLs. -/

/-- Whether a reference keeps the base's path, and its query unless it has
its own. -/
def keepsPath (base : Option Url) (r : Reference) : Option Url :=
  match base with
  | none => none
  | some base =>
    match cutScheme r.front with
    | some (scheme, []) =>
      if scheme = base.scheme && SchemeKind.of scheme ≠ .other then some base else none
    | some _ => none
    | none => if r.front.isEmpty then some base else none

/-- Whether a reference is a fragment only. -/
def isFragmentOnly (r : Reference) : Bool :=
  r.front.isEmpty && r.query.isNone && r.fragment.isSome

/-- Reads a reference, against a base if there is one. -/
def parseReference (base : Option Url) (r : Reference) : Except UrlError Url :=
  match base, isFragmentOnly r with
  | some base, true => .ok { base with fragment := r.keptFragment }
  | _, _ => do
    let front ← match cutScheme r.front with
      | some (scheme, rest) => readWithScheme base scheme r.isFrontOnly rest
      | none => readWithoutScheme base r.isFrontOnly r.front
    let own := r.keptQuery (.of front.scheme)
    let kept := (keepsPath base r).bind (·.query)
    return {
      scheme := front.scheme
      authority := front.authority
      route := front.route
      query := if r.query.isSome then own else kept
      fragment := r.keptFragment }

/-- Reads a URL. -/
def parse (text : String) : Except UrlError Url :=
  parseReference none (split (cleaned text.toList))

/-- Reads a reference against a base. -/
def resolve (base : Url) (reference : String) : Except UrlError Url :=
  parseReference (some base) (split (cleaned reference.toList))

/-! ## §7. Laws. -/

/-- A text without a question mark and a hash is all front. -/
theorem split_of_front {cs : List Char} (hquestion : '?' ∉ cs) (hhash : '#' ∉ cs) :
    split cs = { front := cs } := by
  have hnone : ∀ mark : Char, mark ∉ cs → cutAt mark cs = none := by
    intro mark hmark
    refine cut_eq_none_iff.2 fun c hc => ?_
    simpa using fun heq : c = mark => hmark (heq ▸ hc)
  simp [split, splitQuery, hnone '#' hhash, hnone '?' hquestion]

end RenderDesk.Url
