/-
  RenderDesk.Json.Read
  ────────────────────
  Reading JSON: a text is cut into tokens, and the tokens are put together on
  a stack of the arrays and objects that are open.
-/
import RenderDesk.Json.Value

namespace RenderDesk.Json

open RenderDesk.Text

/-! ## §1. Strings. -/

/-- A piece of a string: a character, or a code unit that is half of one. -/
inductive Piece where
  | char (c : Char)
  | half (unit : Nat)
  deriving Repr, DecidableEq

/-- The piece for a code unit. -/
def Piece.ofUnit (unit : Nat) : Piece :=
  if 0xD800 ≤ unit ∧ unit ≤ 0xDFFF then .half unit else .char (Char.ofNat unit)

/-- What a letter after a backslash stands for. -/
def escaped? (c : Char) : Option Char :=
  match c with
  | '\\' => some '\\'
  | '/' => some '/'
  | 'b' => some (Char.ofNat 8)
  | 'f' => some (Char.ofNat 12)
  | 'n' => some '\n'
  | 'r' => some '\r'
  | 't' => some '\t'
  | c => if c.toNat = 0x22 then some c else none

/-- The pieces up to the closing quote, and what follows it. -/
def readPieces : List Char → Option (List Piece × List Char)
  | [] => none
  | '\\' :: 'u' :: a :: b :: c :: d :: rest =>
    match hexValue? a, hexValue? b, hexValue? c, hexValue? d, readPieces rest with
    | some a, some b, some c, some d, some (pieces, rest) =>
      some (.ofUnit (a * 4096 + b * 256 + c * 16 + d) :: pieces, rest)
    | _, _, _, _, _ => none
  | '\\' :: c :: rest =>
    match escaped? c, readPieces rest with
    | some c, some (pieces, rest) => some (.char c :: pieces, rest)
    | _, _ => none
  | c :: rest =>
    if c.toNat = 0x22 then some ([], rest)
    else if c.toNat < 0x20 then none
    else (readPieces rest).map fun (pieces, rest) => (.char c :: pieces, rest)

/-- The text of pieces, when every half has its other half behind it. -/
def textOf : List Piece → Option (List Char)
  | [] => some []
  | .char c :: rest => (textOf rest).map (c :: ·)
  | .half high :: .half low :: rest =>
    if high < 0xDC00 ∧ 0xDC00 ≤ low then
      (textOf rest).map (Char.ofNat (0x10000 + (high - 0xD800) * 0x400 + (low - 0xDC00)) :: ·)
    else none
  | .half _ :: _ => none

/-! ## §2. Tokens. -/

inductive Token where
  | openArray
  | closeArray
  | openObject
  | closeObject
  | colon
  | comma
  | value (v : Value)

def isSpace (c : Char) : Bool := c = ' ' || c = '\n' || c = '\t' || c = '\r'

/-- Takes at least one digit. -/
def digits? (cs : List Char) : Option (List Char × List Char) :=
  match cs.takeWhile Char.isDigit with
  | [] => none
  | ds => some (ds, cs.dropWhile Char.isDigit)

/-- The whole part of a number: no zero in front of other digits. -/
def wholePart? : List Char → Option (List Char × List Char)
  | '0' :: rest => some (['0'], rest)
  | cs => digits? cs

/-- The decimals of a number, if there are any. -/
def decimals? : List Char → Option (List Char × List Char)
  | '.' :: rest => (digits? rest).map fun (ds, rest) => ('.' :: ds, rest)
  | cs => some ([], cs)

/-- The exponent of a number, if there is one. -/
def exponent? : List Char → Option (List Char × List Char)
  | e :: sign :: rest =>
    if e = 'e' || e = 'E' then
      if sign = '+' || sign = '-' then
        (digits? rest).map fun (ds, rest) => (e :: sign :: ds, rest)
      else (digits? (sign :: rest)).map fun (ds, rest) => (e :: ds, rest)
    else some ([], e :: sign :: rest)
  | [e] => if e = 'e' || e = 'E' then none else some ([], [e])
  | [] => some ([], [])

/-- A number as it is written, and what follows it. -/
def number? (cs : List Char) : Option (List Char × List Char) := do
  let (sign, cs) := match cs with
    | '-' :: rest => (['-'], rest)
    | cs => ([], cs)
  let (whole, cs) ← wholePart? cs
  let (decimals, cs) ← decimals? cs
  let (exponent, cs) ← exponent? cs
  return (sign ++ whole ++ decimals ++ exponent, cs)

/-- The token at the start of a text that begins with no blank. -/
def token? (c : Char) (cs : List Char) : Option (Token × List Char) :=
  if c = '[' then some (.openArray, cs)
  else if c = ']' then some (.closeArray, cs)
  else if c.toNat = 0x7B then some (.openObject, cs)
  else if c.toNat = 0x7D then some (.closeObject, cs)
  else if c = ':' then some (.colon, cs)
  else if c = ',' then some (.comma, cs)
  else if c.toNat = 0x22 then
    (readPieces cs).map fun (pieces, rest) =>
      (.value (.string ((textOf pieces).map String.ofList)), rest)
  else
    match c, cs with
    | 'n', 'u' :: 'l' :: 'l' :: rest => some (.value .null, rest)
    | 't', 'r' :: 'u' :: 'e' :: rest => some (.value (.bool true), rest)
    | 'f', 'a' :: 'l' :: 's' :: 'e' :: rest => some (.value (.bool false), rest)
    | c, cs => (number? (c :: cs)).map fun (ds, rest) => (.value (.number ds), rest)

/-- The tokens of a text; each step uses up at least one character, so that
there are never more steps than characters. -/
def tokens : Nat → List Char → Option (List Token)
  | _, [] => some []
  | 0, _ => none
  | steps + 1, c :: cs =>
    if isSpace c then tokens steps cs
    else
      match token? c cs with
      | some (t, rest) => (tokens steps rest).map (t :: ·)
      | none => none

/-! ## §3. Putting tokens together. -/

/-- An array or object that is open, with what it holds, the latest first. -/
inductive Frame where
  | items (items : List Value)
  | members (members : List (Option String × Value))
  /-- An object whose latest key has no value yet. -/
  | keyed (key : Option String) (members : List (Option String × Value))

/-- What may come next. -/
inductive Turn where
  | value
  /-- A value, or the end of the array. -/
  | firstItem
  | key
  /-- A key, or the end of the object. -/
  | firstKey
  | colon
  /-- A comma, or the end of what is open. -/
  | separator

structure Progress where
  stack : List Frame := []
  turn : Turn := .value
  /-- The value, once it is complete. -/
  result : Option Value := none

/-- Takes in a complete value. -/
def Progress.give (p : Progress) (v : Value) : Option Progress :=
  match p.stack with
  | [] => some { stack := [], turn := .separator, result := some v }
  | .items items :: below =>
    some { stack := .items (v :: items) :: below, turn := .separator }
  | .keyed key members :: below =>
    some { stack := .members ((key, v) :: members) :: below, turn := .separator }
  | .members _ :: _ => none

/-- Closes what is open. -/
def Progress.close (p : Progress) (v : Value) : Option Progress :=
  { p with stack := p.stack.tail }.give v

/-- Takes in one token. -/
def Progress.step (p : Progress) (t : Token) : Option Progress :=
  if p.result.isSome then none
  else
    match p.turn, t, p.stack with
    | .value, .openArray, _ | .firstItem, .openArray, _ =>
      some { stack := .items [] :: p.stack, turn := .firstItem }
    | .value, .openObject, _ | .firstItem, .openObject, _ =>
      some { stack := .members [] :: p.stack, turn := .firstKey }
    | .value, .value v, _ | .firstItem, .value v, _ => p.give v
    | .firstItem, .closeArray, .items items :: _ => p.close (.array items.reverse)
    | .separator, .closeArray, .items items :: _ => p.close (.array items.reverse)
    | .separator, .comma, .items _ :: _ => some { p with turn := .value }
    | .firstKey, .closeObject, .members members :: _ => p.close (.object members.reverse)
    | .separator, .closeObject, .members members :: _ => p.close (.object members.reverse)
    | .separator, .comma, .members _ :: _ => some { p with turn := .key }
    | .key, .value (.string key), .members members :: below
    | .firstKey, .value (.string key), .members members :: below =>
      some { stack := .keyed key members :: below, turn := .colon }
    | .colon, .colon, _ => some { p with turn := .value }
    | _, _, _ => none

/-- The value of a text. -/
def read (cs : List Char) : Option Value := do
  let ts ← tokens cs.length cs
  let p ← ts.foldlM Progress.step {}
  p.result

end RenderDesk.Json
