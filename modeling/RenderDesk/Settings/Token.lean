/-
  RenderDesk.Settings.Token
  ─────────────────────────
  The words of a settings file.

  Main statement: `tokens_spacing` — a blank in front of a text does not
  matter.
-/
import RenderDesk.Settings.Blank
import RenderDesk.Settings.Literal

namespace RenderDesk.Settings

/-! ## §1. Tokens. -/

inductive Token where
  | numberSign
  | exclamation
  | openSquare
  | closeSquare
  | openRound
  | closeRound
  | colon
  | comma
  | word (name : String)
  /-- A word behind `r#`, which is never a keyword. -/
  | rawWord (name : String)
  | text (s : String)
  | number (n : Nat)
  deriving Repr, DecidableEq

/-- The name that a token is. -/
def Token.name? : Token → Option String
  | .word name | .rawWord name => some name
  | _ => none

/-! ## §2. Cutting a text into tokens. -/

def mark? (c : Char) : Option Token :=
  match c with
  | '#' => some .numberSign
  | '!' => some .exclamation
  | '[' => some .openSquare
  | ']' => some .closeSquare
  | '(' => some .openRound
  | ')' => some .closeRound
  | ':' => some .colon
  | ',' => some .comma
  | _ => none

def isRawWordChar (c : Char) : Bool := isWordChar c || c = '.' || c = '+' || c = '-'

/-- Whether a raw text begins behind an `r`. -/
def beginsRawText (cs : List Char) : Bool :=
  ((cs.dropWhile (· = '#')).head?.map isQuote).getD false

/-- A word and what follows it. -/
def word? : List Char → Option (Token × List Char)
  | 'r' :: '#' :: cs =>
    match cs.takeWhile isRawWordChar with
    | [] => none
    | name => some (.rawWord (String.ofList name), cs.dropWhile isRawWordChar)
  | cs =>
    match cs.takeWhile isWordChar with
    | [] => none
    | name => some (.word (String.ofList name), cs.dropWhile isWordChar)

/-- A text between quotes, behind the first of them. -/
def quoted? (cs : List Char) : Option (Token × List Char) := do
  let (inside, rest) ← closeText cs
  return (.text (← unescape inside), rest)

def beginsNumber : List Char → Bool
  | 'b' :: c :: _ => c.toNat = 0x27
  | c :: _ => c.isDigit || c = '+' || c = '-'
  | [] => false

/-- The token at the start of a text that begins with no blank. -/
def token? (c : Char) (cs : List Char) : Option (Token × List Char) :=
  match mark? c with
  | some mark => some (mark, cs)
  | none =>
    if isQuote c then quoted? cs
    else if c = 'r' && beginsRawText cs then
      (rawText? cs).map fun (inside, rest) => (.text (String.ofList inside), rest)
    else if beginsNumber (c :: cs) then
      (number? (c :: cs)).map fun (n, rest) => (.number n, rest)
    else word? (c :: cs)

/-- The tokens of a text; each step uses up at least one character, so that
there are never more steps than characters. -/
def tokens : Nat → List Char → Option (List Token)
  | 0, cs => if skip .outside cs = some [] then some [] else none
  | steps + 1, cs =>
    match skip .outside cs with
    | none => none
    | some [] => some []
    | some (c :: cs) => do
      let (t, rest) ← token? c cs
      return t :: (← tokens steps rest)

/-! ## §3. Laws. -/

theorem tokens_spacing {c : Char} (h : isSpacing c = true) (hc : c ≠ '/') (steps : Nat)
    (cs : List Char) : tokens steps (c :: cs) = tokens steps cs := by
  have hs : skip .outside (c :: cs) = skip .outside cs := by
    rw [skip]
    · simp [h]
    all_goals simp_all
  cases steps <;> simp [tokens, hs]

end RenderDesk.Settings
