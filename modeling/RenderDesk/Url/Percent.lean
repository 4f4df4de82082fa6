/-
  RenderDesk.Url.Percent
  ──────────────────────
  Percent encoding: which characters a part of a URL writes by their bytes,
  and reading such bytes back.

  Main statements:
    * `encode_of_plain` — a text without characters of the set stays as it is;
    * `encode_append` — encoding works character by character.
-/
import RenderDesk.Text.Digits
import RenderDesk.Text.Utf8

namespace RenderDesk.Url

open RenderDesk.Text

/-! ## §1. Sets of characters. -/

/-- Controls and everything beyond ASCII. -/
def isControl (c : Char) : Bool := c.toNat < 0x20 || 0x7E < c.toNat

/-- What a fragment encodes. -/
def inFragmentSet (c : Char) : Bool := isControl c || " \"<>\x60".toList.contains c

/-- What a path encodes. -/
def inPathSet (c : Char) : Bool := inFragmentSet c || "#?\x7b\x7d".toList.contains c

/-- What a user name and a password encode. -/
def inUserSet (c : Char) : Bool := inPathSet c || "/:;=@[\\]^|".toList.contains c

/-- What a query encodes; that of a special scheme also the apostrophe. -/
def inQuerySet (special : Bool) (c : Char) : Bool :=
  isControl c || " \"#<>".toList.contains c || (special && c.toNat == 0x27)

/-! ## §2. Encoding. -/

def encodeByte (b : UInt8) : List Char :=
  ['%', upperHexDigit (b.toNat / 16), upperHexDigit (b.toNat % 16)]

/-- A text with the characters of a set written by their bytes. -/
def encode (set : Char → Bool) (cs : List Char) : List Char :=
  cs.flatMap fun c => if set c then (String.utf8EncodeChar c).flatMap encodeByte else [c]

/-! ## §3. Decoding. -/

/-- The bytes of a text, a percent sign with two digits being one byte. -/
def decodeBytes : List Char → List UInt8
  | [] => []
  | '%' :: a :: b :: rest =>
    match hexValue? a, hexValue? b with
    | some x, some y => UInt8.ofNat (x * 16 + y) :: decodeBytes rest
    | _, _ => String.utf8EncodeChar '%' ++ decodeBytes (a :: b :: rest)
  | c :: rest => String.utf8EncodeChar c ++ decodeBytes rest

/-- The text that a percent-encoded text stands for. -/
def decode (cs : List Char) : List Char := Text.Utf8.decodeFrom .fresh (decodeBytes cs)

/-! ## §4. Laws. -/

theorem encode_of_plain {set : Char → Bool} {cs : List Char} (h : ∀ c ∈ cs, set c = false) :
    encode set cs = cs := by
  induction cs with
  | nil => rfl
  | cons c cs ih =>
    have hc := h c (by simp)
    have ih := ih fun d hd => h d (by simp [hd])
    simp only [encode] at ih ⊢
    simp [hc, ih]

theorem encode_append (set : Char → Bool) (xs ys : List Char) :
    encode set (xs ++ ys) = encode set xs ++ encode set ys := by
  simp [encode]

end RenderDesk.Url
