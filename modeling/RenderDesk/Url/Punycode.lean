/-
  RenderDesk.Url.Punycode
  ───────────────────────
  Letters beyond ASCII written with letters, digits and hyphens, as in the
  labels of domain names.

  The basic characters come first; then every other one, in the order of
  code points, is given by the distance from the one before it, in digits of
  a base that adapts.
-/

namespace RenderDesk.Url.Punycode

/-! ## §1. Digits and thresholds. -/

/-- Digits count to this base. -/
def base : Nat := 36

/-- The first code point that is not basic. -/
def firstCode : Nat := 128

def firstBias : Nat := 72

/-- Halves a distance until it fits, counting the base for each step. -/
def reduce (k delta : Nat) : Nat :=
  if 455 < delta then reduce (k + base) (delta / 35) else k + 36 * delta / (delta + 38)
termination_by delta

/-- The bias after a distance has been written. -/
def adapt (delta count : Nat) (first : Bool) : Nat :=
  let delta := if first then delta / 700 else delta / 2
  reduce 0 (delta + delta / count)

/-- The threshold of the digit at a position. -/
def threshold (k bias : Nat) : Nat :=
  if k ≤ bias then 1 else if bias + 26 ≤ k then 26 else k - bias

theorem threshold_lt (k bias : Nat) : threshold k bias ≤ 26 := by
  unfold threshold
  split
  · omega
  · split <;> omega

def digitChar (d : Nat) : Char := if d < 26 then Char.ofNat (97 + d) else Char.ofNat (22 + d)

def digitValue? (c : Char) : Option Nat :=
  if 'a' ≤ c && c ≤ 'z' then some (c.toNat - 97)
  else if '0' ≤ c && c ≤ '9' then some (c.toNat - 22)
  else none

/-! ## §2. Encoding. -/

/-- The digits of a distance, from a position on. -/
def digits (k bias q : Nat) : List Char :=
  let t := threshold k bias
  if t ≤ q ∧ 0 < q then
    digitChar (t + (q - t) % (base - t)) :: digits (k + base) bias ((q - t) / (base - t))
  else [digitChar q]
termination_by q
decreasing_by
  have ht := threshold_lt k bias
  have hb : base = 36 := rfl
  have hd : (q - threshold k bias) / (base - threshold k bias) ≤ (q - threshold k bias) / 10 :=
    Nat.div_le_div_left (by omega) (by omega)
  show (q - threshold k bias) / (base - threshold k bias) < q
  omega

/-- What encoding has reached. -/
structure Progress where
  delta : Nat
  bias : Nat
  /-- How many characters have been written. -/
  written : Nat
  out : List Char

/-- Writes all characters with one code point. -/
def writeCode (code basic : Nat) (p : Progress) : List Nat → Progress
  | [] => p
  | c :: rest =>
    if c < code then writeCode code basic { p with delta := p.delta + 1 } rest
    else if c = code then
      writeCode code basic
        { delta := 0
          bias := adapt p.delta (p.written + 1) (p.written == basic)
          written := p.written + 1
          out := p.out ++ digits base p.bias p.delta } rest
    else writeCode code basic p rest

/-- Writes the code points of a list, which grow. -/
def writeCodes (input : List Nat) (basic : Nat) (last : Nat) (p : Progress) : List Nat → Progress
  | [] => p
  | code :: codes =>
    let p := { p with delta := p.delta + (code - last) * (p.written + 1) }
    let p := writeCode code basic p input
    writeCodes input basic (code + 1) { p with delta := p.delta + 1 } codes

/-- The text in basic characters for a text. -/
def encode (cs : List Char) : List Char :=
  let input := cs.map Char.toNat
  let basic := cs.filter (·.toNat < firstCode)
  let codes := ((input.filter (firstCode ≤ ·)).mergeSort).eraseDups
  let start := if basic.isEmpty then [] else basic ++ ['-']
  (writeCodes input basic.length firstCode ⟨0, firstBias, basic.length, start⟩ codes).out

/-! ## §3. Decoding. -/

/-- Reads a distance from digits: its value and what is left. -/
def readDelta (bias k weight value : Nat) : List Char → Option (Nat × List Char)
  | [] => none
  | c :: rest =>
    match digitValue? c with
    | none => none
    | some d =>
      let value := value + d * weight
      let t := threshold k bias
      if d < t then some (value, rest) else readDelta bias (k + base) (weight * (base - t)) value rest

theorem readDelta_length {bias k weight value : Nat} {cs rest : List Char} {v : Nat}
    (h : readDelta bias k weight value cs = some (v, rest)) : rest.length < cs.length := by
  induction cs generalizing k weight value with
  | nil => simp [readDelta] at h
  | cons c cs ih =>
    unfold readDelta at h
    split at h
    · simp at h
    · simp only at h
      split at h
      · simp only [Option.some.injEq, Prod.mk.injEq] at h
        simp [h.2]
      · have := ih h
        simp only [List.length_cons]
        omega

/-- Inserts the characters that digits stand for: the next code point is at
least `code`, and the next place at least `position`. -/
def readCodes (code position bias : Nat) (out : List Char) (cs : List Char) :
    Option (List Char) :=
  if cs.isEmpty then some out
  else
    match _h : readDelta bias base 1 position cs with
    | none => none
    | some (reached, rest) =>
      let count := out.length + 1
      let code := code + reached / count
      let place := reached % count
      if 0x10FFFF < code ∨ (0xD800 ≤ code ∧ code ≤ 0xDFFF) then none
      else
        readCodes code (place + 1) (adapt (reached - position) count (position == 0))
          (out.take place ++ Char.ofNat code :: out.drop place) rest
termination_by cs.length
decreasing_by exact readDelta_length (by assumption)

/-- The basic characters of an encoded text, and its digits: what stands
before and after the last hyphen. -/
def splitBasic (cs : List Char) : List Char × List Char :=
  let digits := (cs.reverse.takeWhile (· ≠ '-')).reverse
  (cs.take (cs.length - digits.length - 1), digits)

/-- The text that an encoded text stands for, if it is one. -/
def decode? (cs : List Char) : Option (List Char) :=
  let (basic, digits) := splitBasic cs
  readCodes firstCode 0 firstBias basic digits

end RenderDesk.Url.Punycode
