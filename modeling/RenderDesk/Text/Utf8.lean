/-
  RenderDesk.Text.Utf8
  ────────────────────
  Reading bytes as UTF-8 when they may be broken.

  A byte sequence that cannot be completed is read as one replacement
  character, and reading goes on with the byte that broke it off.  A byte
  order mark is an ordinary character.

  Main statement: `decodeLossy_ascii` — ASCII bytes are read one by one.
-/

namespace RenderDesk.Text.Utf8

/-- What stands for bytes that are no character. -/
def replacement : Char := Char.ofNat 0xFFFD

/-- Between characters, or inside one whose first bytes have been read. -/
inductive Progress where
  /-- No character has been begun. -/
  | fresh
  /-- The bits read so far, how many bytes are still to come, and the bounds
  on the next of them. -/
  | within (bits : Nat) (missing : Nat) (low high : Nat)
  deriving Repr, DecidableEq

/-- Reads the first byte of a character. -/
def begin (b : Nat) : Progress × List Char :=
  if b < 0x80 then (.fresh, [Char.ofNat b])
  else if b < 0xC2 then (.fresh, [replacement])
  else if b < 0xE0 then (.within (b - 0xC0) 1 0x80 0xBF, [])
  else if b = 0xE0 then (.within 0 2 0xA0 0xBF, [])
  else if b = 0xED then (.within 0xD 2 0x80 0x9F, [])
  else if b < 0xF0 then (.within (b - 0xE0) 2 0x80 0xBF, [])
  else if b = 0xF0 then (.within 0 3 0x90 0xBF, [])
  else if b < 0xF4 then (.within (b - 0xF0) 3 0x80 0xBF, [])
  else if b = 0xF4 then (.within 4 3 0x80 0x8F, [])
  else (.fresh, [replacement])

/-- Reads one byte: the new progress and the characters that it finishes. -/
def step : Progress → Nat → Progress × List Char
  | .fresh, b => begin b
  | .within bits missing low high, b =>
    if low ≤ b ∧ b ≤ high then
      let bits := bits * 64 + (b - 0x80)
      if missing = 1 then (.fresh, [Char.ofNat bits])
      else (.within bits (missing - 1) 0x80 0xBF, [])
    else
      let (progress, out) := begin b
      (progress, replacement :: out)

/-- The characters of a byte sequence, from a given progress. -/
def decodeFrom : Progress → List UInt8 → List Char
  | .fresh, [] => []
  | .within .., [] => [replacement]
  | p, b :: bs =>
    let (p, out) := step p b.toNat
    out ++ decodeFrom p bs

/-- The text that bytes are read as, broken sequences replaced. -/
def decodeLossy (bytes : ByteArray) : String :=
  String.ofList (decodeFrom .fresh bytes.toList)

/-- The text that bytes are, when they are valid. -/
def decode? (bytes : ByteArray) : Option String := String.fromUTF8? bytes

/-- The bytes of a text. -/
def encode (s : String) : ByteArray := s.toUTF8

/-! ## Laws. -/

theorem decode?_encode (s : String) : decode? (encode s) = some s := by
  unfold decode? encode String.fromUTF8?
  split
  · rfl
  · next h => exact absurd s.isValidUTF8 h

theorem decodeLossy_ascii {bs : List UInt8} (h : ∀ b ∈ bs, b.toNat < 0x80) :
    decodeFrom .fresh bs = bs.map fun b => Char.ofNat b.toNat := by
  induction bs with
  | nil => rfl
  | cons b bs ih =>
    have hb := h b (by simp)
    simp [decodeFrom, step, begin, hb, ih fun x hx => h x (by simp [hx])]

end RenderDesk.Text.Utf8
