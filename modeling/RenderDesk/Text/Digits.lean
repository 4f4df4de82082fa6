/-
  RenderDesk.Text.Digits
  ──────────────────────
  Digits of numbers, in bases up to 16.

  Main statement: `hexValue?_lowerHexDigit` — a digit that is written is read
  as its value.
-/

namespace RenderDesk.Text

/-! ## §1. Reading. -/

/-- The value of a digit, in either case. -/
def hexValue? (c : Char) : Option Nat :=
  if '0' ≤ c && c ≤ '9' then some (c.toNat - 48)
  else if 'A' ≤ c && c ≤ 'F' then some (c.toNat - 55)
  else if 'a' ≤ c && c ≤ 'f' then some (c.toNat - 87)
  else none

/-- Counts on by one digit. -/
def countOn (base value : Nat) (c : Char) : Option Nat := do
  let d ← hexValue? c
  if d < base then some (value * base + d) else none

/-- The value of digits in a base. -/
def digitsValue? (base : Nat) (cs : List Char) : Option Nat :=
  cs.foldlM (countOn base) 0

/-! ## §2. Writing. -/

def upperHexDigit (n : Nat) : Char :=
  if n < 10 then Char.ofNat (48 + n) else Char.ofNat (55 + n)

def lowerHexDigit (n : Nat) : Char :=
  if n < 10 then Char.ofNat (48 + n) else Char.ofNat (87 + n)

/-! ## §3. Laws. -/

theorem hexValue?_lowerHexDigit {n : Nat} (h : n < 16) : hexValue? (lowerHexDigit n) = some n := by
  have htable : ∀ n < 16, hexValue? (lowerHexDigit n) = some n := by decide
  exact htable n h

end RenderDesk.Text
