/-
  RenderDesk.Url.Domain
  ─────────────────────
  Domain names: folding letters to one form, refusing what no domain may
  hold, and writing labels beyond ASCII in letters, digits and hyphens.

  Folding covers the letters of the European scripts, the wide forms of
  ASCII, and the characters that are dropped; other characters that are
  assigned stay as they are.
-/
import RenderDesk.Text.Cut
import RenderDesk.Text.Printable
import RenderDesk.Url.Punycode

namespace RenderDesk.Url

open RenderDesk.Text

/-! ## §1. Folding. -/

/-- Ranges of capitals, and how far their small letters are. -/
def capitalShifts : List (Nat × Nat × Nat) :=
  [(0x41, 0x5A, 32), (0xC0, 0xD6, 32), (0xD8, 0xDE, 32), (0x386, 0x386, 38), (0x388, 0x38A, 37),
    (0x38C, 0x38C, 64), (0x38E, 0x38F, 63), (0x391, 0x3A1, 32), (0x3A3, 0x3AB, 32),
    (0x400, 0x40F, 80), (0x410, 0x42F, 32), (0x531, 0x556, 48)]

/-- Ranges in which capitals and small letters take turns. -/
def capitalTurns : List (Nat × Nat) :=
  [(0x100, 0x12F), (0x132, 0x137), (0x14A, 0x177), (0x370, 0x373), (0x3D8, 0x3EF),
    (0x460, 0x481), (0x48A, 0x4BF), (0x4D0, 0x52F), (0x1E00, 0x1E95), (0x1EA0, 0x1EFF)]

/-- Ranges in which they take turns beginning with an odd number. -/
def oddCapitalTurns : List (Nat × Nat) := [(0x139, 0x148), (0x179, 0x17E), (0x4C1, 0x4CE)]

/-- Code points that are dropped. -/
def droppedCodes : List (Nat × Nat) :=
  [(0xAD, 0xAD), (0x34F, 0x34F), (0x180B, 0x180D), (0x200B, 0x200B), (0x2060, 0x2060),
    (0x2064, 0x2064), (0xFE00, 0xFE0F), (0xFEFF, 0xFEFF)]

/-- The small letter of a capital. -/
def smallCode (n : Nat) : Nat :=
  match capitalShifts.find? fun (low, high, _) => low ≤ n && n ≤ high with
  | some (_, _, shift) => n + shift
  | none =>
    if n = 0x178 then 0xFF
    else if inRanges capitalTurns n && n % 2 == 0 then n + 1
    else if inRanges oddCapitalTurns n && n % 2 == 1 then n + 1
    else n

/-- The code point that a wide form or another full stop stands for. -/
def narrowCode (n : Nat) : Nat :=
  if 0xFF01 ≤ n && n ≤ 0xFF5E then n - 0xFEE0
  else if n = 0x3002 || n = 0xFF61 then 0x2E
  else n

/-- What a character becomes in a domain; `none` if it is not allowed. -/
def foldChar (c : Char) : Option (List Char) :=
  let n := smallCode (narrowCode c.toNat)
  if inRanges droppedCodes n then some []
  else if n = 0xFFFD || (0x80 ≤ n && inRanges unprintableRanges n) then none
  else some [Char.ofNat n]

/-! ## §2. Labels. -/

/-- ASCII that no domain may hold. -/
def isForbiddenInDomain (c : Char) : Bool :=
  c.toNat ≤ 0x20 || c.toNat == 0x7F || "%#/:<>?@[\\]^|".toList.contains c

def isAscii (cs : List Char) : Bool := cs.all (·.toNat < 0x80)

/-- Whether an encoded label stands for one beyond ASCII. -/
def isEncodedLabel (digits : List Char) : Bool :=
  match Punycode.decode? digits with
  | some cs => !isAscii cs && cs.all fun c => foldChar c == some [c]
  | none => false

/-- A label in ASCII; `none` if it is not allowed. -/
def asciiLabel (cs : List Char) : Option (List Char) :=
  if cs.any isForbiddenInDomain then none
  else
    match isAscii cs, afterStart "xn--".toList cs with
    | true, some digits => if isEncodedLabel digits then some cs else none
    | true, none => some cs
    | false, none =>
      if cs.head?.any extendsGrapheme then none
      else some ("xn--".toList ++ Punycode.encode cs)
    | false, some _ => none

/-- A domain in ASCII; `none` if it is not allowed. -/
def asciiDomain (cs : List Char) : Option (List Char) := do
  let folded ← cs.mapM foldChar
  let labels ← (parts '.' folded.flatten).mapM asciiLabel
  return ['.'].intercalate labels

end RenderDesk.Url
