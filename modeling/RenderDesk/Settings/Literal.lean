/-
  RenderDesk.Settings.Literal
  ───────────────────────────
  Texts and numbers as they are written in a settings file.

  A text stands between quotes, with escapes, or raw: behind an `r` and as
  many number signs as follow its closing quote.  Escapes may give single
  bytes; the bytes of a text together must be valid UTF-8.

  A number has a base, underscores between its digits, and may name the width
  that it has to fit in.

  Main statements:
    * `bytesOf_plain` — a text without escapes is read as it stands;
    * `unsigned?_lt` — no number is read that is out of range.
-/
import RenderDesk.Text.Cut
import RenderDesk.Text.Digits
import RenderDesk.Text.Utf8

namespace RenderDesk.Settings

open RenderDesk.Text

/-! ## §1. Where a text ends. -/

def isQuote (c : Char) : Bool := c.toNat == 0x22

/-- What stands before the closing quote, escapes as they are, and what
follows it. -/
def closeText : List Char → Option (List Char × List Char)
  | [] => none
  | '\\' :: c :: rest => (closeText rest).map fun (inside, rest) => ('\\' :: c :: inside, rest)
  | c :: rest =>
    if isQuote c then some ([], rest)
    else (closeText rest).map fun (inside, rest) => (c :: inside, rest)

/-- What stands before a closing mark of several characters, and what follows
it. -/
def closeRaw (mark : List Char) : List Char → Option (List Char × List Char)
  | [] => (afterStart mark []).map ([], ·)
  | c :: rest =>
    match afterStart mark (c :: rest) with
    | some rest => some ([], rest)
    | none => (closeRaw mark rest).map fun (inside, rest) => (c :: inside, rest)

/-- A raw text, without its first letter. -/
def rawText? (cs : List Char) : Option (List Char × List Char) :=
  let signs := cs.takeWhile (· = '#')
  match cs.dropWhile (· = '#') with
  | c :: rest => if isQuote c then closeRaw (c :: signs) rest else none
  | [] => none

/-! ## §2. Escapes. -/

/-- The bytes of one character. -/
def bytesOfChar (c : Char) : List UInt8 := (Utf8.encode (String.singleton c)).toList

/-- What a letter behind a backslash stands for. -/
def escapedLetter? (c : Char) : Option Char :=
  match c with
  | '\\' => some '\\'
  | 'n' => some '\n'
  | 'r' => some '\r'
  | 't' => some '\t'
  | '0' => some (Char.ofNat 0)
  | c => if isQuote c || c.toNat = 0x27 then some c else none

/-- The character with a number. -/
def scalar? (n : Nat) : Option Char := if n.isValidChar then some (Char.ofNat n) else none

/-- The byte of two digits. -/
def byte? (high low : Char) : Option UInt8 := do
  return UInt8.ofNat ((← hexValue? high) * 16 + (← hexValue? low))

/-- Whether an escape with a character's number is being read. -/
inductive Escape where
  | outside
  /-- The number so far, and how many digits it has. -/
  | number (value digits : Nat)
  deriving Repr, DecidableEq

/-- The bytes that a text with escapes stands for. -/
def bytesOf : Escape → List Char → Option (List UInt8)
  | .outside, [] => some []
  | .outside, '\\' :: 'x' :: high :: low :: rest => do
    let byte ← byte? high low
    return byte :: (← bytesOf .outside rest)
  | .outside, '\\' :: 'u' :: brace :: rest =>
    if brace.toNat = 0x7B then bytesOf (.number 0 0) rest else none
  | .outside, '\\' :: c :: rest => do
    let c ← escapedLetter? c
    return bytesOfChar c ++ (← bytesOf .outside rest)
  | .outside, c :: rest =>
    if c = '\\' then none else (bytesOf .outside rest).map (bytesOfChar c ++ ·)
  | .number value digits, c :: rest =>
    if c.toNat = 0x7D then do
      if digits = 0 then none
      let c ← scalar? value
      return bytesOfChar c ++ (← bytesOf .outside rest)
    else if digits < 6 then do
      let d ← hexValue? c
      bytesOf (.number (value * 16 + d) (digits + 1)) rest
    else none
  | .number _ _, [] => none

/-- What a text with escapes stands for. -/
def unescape (cs : List Char) : Option String := do
  Utf8.decode? ⟨(← bytesOf .outside cs).toArray⟩

/-! ## §3. Numbers. -/

/-- A number must be smaller than this. -/
def numberLimit : Nat := UInt64.size

def isDigitOrUnderscore (c : Char) : Bool := c = '_' || (hexValue? c).isSome

def isWordChar (c : Char) : Bool := c.isAlphanum || c = '_'

/-- The limit of numbers of a named width. -/
def widthLimit? (width : List Char) : Option Nat :=
  match String.ofList width with
  | "" => some numberLimit
  | "u8" => some UInt8.size
  | "u16" => some UInt16.size
  | "u32" => some UInt32.size
  | "u64" => some numberLimit
  | "i8" => some (UInt8.size / 2)
  | "i16" => some (UInt16.size / 2)
  | "i32" => some (UInt32.size / 2)
  | "i64" => some (UInt64.size / 2)
  | _ => none

/-- The base of a number, and what follows its sign. -/
def base : List Char → Nat × List Char
  | '0' :: 'x' :: rest => (16, rest)
  | '0' :: 'o' :: rest => (8, rest)
  | '0' :: 'b' :: rest => (2, rest)
  | cs => (10, cs)

/-- The value of digits with underscores; none may stand in front. -/
def spacedValue? (base : Nat) : List Char → Option Nat
  | [] => none
  | c :: rest => if c = '_' then none else digitsValue? base ((c :: rest).filter (· ≠ '_'))

/-- A number without its sign, and what follows it. -/
def unsigned? (cs : List Char) : Option (Nat × List Char) := do
  let (base, cs) := base cs
  let value ← spacedValue? base (cs.takeWhile isDigitOrUnderscore)
  let rest := cs.dropWhile isDigitOrUnderscore
  let limit ← widthLimit? (rest.takeWhile isWordChar)
  if value < limit then return (value, rest.dropWhile isWordChar) else none

/-- The number of a character between apostrophes, behind the first of them. -/
def quotedByte? : List Char → Option (Nat × List Char)
  | '\\' :: 'x' :: high :: low :: close :: rest => do
    let byte ← byte? high low
    if close.toNat = 0x27 then return (byte.toNat, rest) else none
  | '\\' :: c :: close :: rest => do
    let c ← escapedLetter? c
    if close.toNat = 0x27 then return (c.toNat, rest) else none
  | c :: close :: rest =>
    if c ≠ '\\' && c.toNat < 0x80 && close.toNat = 0x27 then some (c.toNat, rest) else none
  | _ => none

/-- A number, and what follows it; only zero may have a minus sign. -/
def number? : List Char → Option (Nat × List Char)
  | '+' :: cs => unsigned? cs
  | '-' :: cs => (unsigned? cs).filter (·.1 = 0)
  | 'b' :: c :: cs => if c.toNat = 0x27 then quotedByte? cs else none
  | cs => unsigned? cs

/-! ## §4. Laws. -/

theorem bytesOf_plain {cs : List Char} (h : '\\' ∉ cs) :
    bytesOf .outside cs = some (cs.flatMap bytesOfChar) := by
  induction cs with
  | nil => rfl
  | cons c cs ih =>
    simp only [List.mem_cons, not_or] at h
    have hc : c ≠ '\\' := Ne.symm h.1
    simp [bytesOf, hc, ih h.2]

theorem widthLimit?_le {width : List Char} {limit : Nat} (h : widthLimit? width = some limit) :
    limit ≤ numberLimit := by
  unfold widthLimit? at h
  split at h
  case h_10 => cases h
  all_goals
    injection h with h
    subst h
    decide

theorem unsigned?_lt {cs rest : List Char} {n : Nat} (h : unsigned? cs = some (n, rest)) :
    n < numberLimit := by
  simp only [unsigned?, Option.bind_eq_bind, Option.bind_eq_some_iff] at h
  obtain ⟨value, _, limit, hl, h⟩ := h
  split at h
  · next hv =>
    simp only [Option.pure_def, Option.some.injEq, Prod.mk.injEq] at h
    exact h.1 ▸ Nat.lt_of_lt_of_le hv (widthLimit?_le hl)
  · simp at h

end RenderDesk.Settings
