/-
  RenderDesk.Http.Wire
  ────────────────────
  How a request is written on a connection that is used once, and how the
  response is read from all the bytes that came back.

  A body has its announced length, or comes in chunks that each announce
  theirs, or ends with the connection.

  Main statements:
    * `lineEnd?_bounds` — a line ends where it was looked for, within the
      bytes;
    * `chunk?_bounds` — a chunk begins behind where it was looked for.
-/
import RenderDesk.Http.Message
import RenderDesk.Text.Blank
import RenderDesk.Text.Cut
import RenderDesk.Text.Digits

namespace RenderDesk.Http

open RenderDesk.Text

/-! ## §1. Writing a request. -/

def Method.word : Method → String
  | .get => "GET"
  | .post => "POST"

/-- The path and the query of a URL. -/
def targetOf (url : Url) : String :=
  let path := url.route.text
  String.ofList ((if path.isEmpty then ['/'] else path) ++ Url.optionalPart '?' url.query)

/-- The host and the port of a URL. -/
def hostOf (url : Url) : String :=
  match url.authority with
  | some a => String.ofList { a with username := [], password := none : Url.Authority }.text
  | none => ""

/-- The lines of a request before its body. -/
def Request.headLines (r : Request) : List String :=
  [r.method.word ++ " " ++ targetOf r.url ++ " HTTP/1.1", "host: " ++ hostOf r.url,
    "accept: */*", "connection: close"]
  ++ match r.body with
    | some body =>
      ["content-type: application/json", "content-length: " ++ toString body.utf8ByteSize]
    | none => []

/-- The bytes of a request. -/
def Request.bytes (r : Request) : ByteArray :=
  let head := String.join ((r.headLines ++ [""]).map (· ++ "\r\n"))
  Utf8.encode (head ++ r.body.getD "")

/-! ## §2. Lines. -/

/-- Where the first line end at or behind a place is. -/
def lineEnd? (b : ByteArray) (i : Nat) : Option Nat :=
  if h : i + 1 < b.size then
    if b[i] = 13 ∧ b[i + 1] = 10 then some i else lineEnd? b (i + 1)
  else none
termination_by b.size - i

theorem lineEnd?_bounds {b : ByteArray} {i e : Nat} (h : lineEnd? b i = some e) :
    i ≤ e ∧ e + 1 < b.size := by
  fun_induction lineEnd? b i with
  | case1 i hi hm =>
    cases h
    omega
  | case2 i hi hm ih =>
    have hbounds := ih h
    omega
  | case3 => cases h

/-- Bytes read as one character each. -/
def narrowText (b : ByteArray) : List Char := b.toList.map fun x => Char.ofNat x.toNat

/-- The lines from a place to the first empty one, and where the body begins
behind it. -/
def headFrom (b : ByteArray) (i : Nat) : Option (List (List Char) × Nat) :=
  match h : lineEnd? b i with
  | none => none
  | some e =>
    if e = i then some ([], e + 2)
    else (headFrom b (e + 2)).map fun (lines, body) => (narrowText (b.extract i e) :: lines, body)
termination_by b.size - i
decreasing_by
  have hbounds := lineEnd?_bounds h
  omega

/-! ## §3. The head. -/

/-- A number in digits of a base. -/
def number? (base : Nat) (cs : List Char) : Option Nat :=
  match trim cs with
  | [] => none
  | digits => digitsValue? base digits

/-- The status in the first line. -/
def statusOf (line : List Char) : Option Nat := do
  let (_, rest) ← cutAt ' ' line
  number? 10 (rest.take 3)

/-- The value of a header. -/
def header? (name : String) (lines : List (List Char)) : Option (List Char) :=
  lines.findSome? fun line => do
    let (key, value) ← cutAt ':' line
    if key.map Char.toLower = name.toList then some (trim value) else none

/-! ## §4. The body. -/

/-- The size of a chunk, in the line that announces it. -/
def chunkSize? (line : List Char) : Option Nat := number? 16 (line.takeWhile (· ≠ ';'))

/-- A body with a chunk in front. -/
def Body.after (chunk : ByteArray) (b : Body) : Body := { b with chunks := chunk :: b.chunks }

/-- The chunk that is announced at a place: where it begins and ends. -/
def chunk? (b : ByteArray) (i : Nat) : Option (Nat × Nat) := do
  let e ← lineEnd? b i
  let size ← chunkSize? (narrowText (b.extract i e))
  return (e + 2, e + 2 + size)

theorem chunk?_bounds {b : ByteArray} {i start stop : Nat} (h : chunk? b i = some (start, stop)) :
    i < start ∧ start ≤ stop := by
  obtain ⟨e, he, hsize⟩ := Option.bind_eq_some_iff.1 h
  obtain ⟨size, _, hplace⟩ := Option.bind_eq_some_iff.1 hsize
  cases hplace
  have hbounds := lineEnd?_bounds he
  omega

/-- The chunks from a place. -/
def chunksFrom (b : ByteArray) (i : Nat) : Body :=
  match h : chunk? b i with
  | none => { ending := .broken }
  | some (start, stop) =>
    if start = stop then {}
    else if stop + 2 ≤ b.size then (chunksFrom b (stop + 2)).after (b.extract start stop)
    else { chunks := [b.extract start stop], ending := .broken }
termination_by b.size - i
decreasing_by
  have hbounds := chunk?_bounds h
  omega

/-- The body that begins at a place, with its announced length if there is
one. -/
def readBody (chunked : Bool) (declared : Option Nat) (b : ByteArray) (i : Nat) : Body :=
  if chunked then chunksFrom b i
  else
    match declared with
    | some size =>
      if b.size < i + size then { chunks := [b.extract i b.size], ending := .broken }
      else { chunks := [b.extract i (i + size)] }
    | none => { chunks := [b.extract i b.size] }

/-- The response in the bytes of a connection. -/
def readResponse (b : ByteArray) : Option Response := do
  let (lines, i) ← headFrom b 0
  let status ← statusOf (← lines.head?)
  let chunked := (header? "transfer-encoding" lines).map (·.map Char.toLower)
    = some "chunked".toList
  let declaredLength := (header? "content-length" lines).bind (number? 10)
  return {
    status
    location := (header? "location" lines).map String.ofList
    declaredLength := if chunked then none else declaredLength
    body := readBody chunked declaredLength b i }

end RenderDesk.Http
