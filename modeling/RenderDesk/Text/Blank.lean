/-
  RenderDesk.Text.Blank
  ─────────────────────
  White space, and trimming it.

  A character is blank when Unicode gives it the property White_Space.
  Trimming works on lists of characters; the forms on strings go through
  them, so that every law is stated once.

  Main statement: `trimEnd_append_of_blank` — blanks at the end do not matter.
-/

namespace RenderDesk.Text

/-! ## §1. Blank characters. -/

/-- The characters with the Unicode property White_Space. -/
def isBlank (c : Char) : Bool :=
  let n := c.toNat
  (9 ≤ n && n ≤ 13) || n == 0x20 || n == 0x85 || n == 0xA0 || n == 0x1680
    || (0x2000 ≤ n && n ≤ 0x200A) || n == 0x2028 || n == 0x2029 || n == 0x202F
    || n == 0x205F || n == 0x3000

/-- Whether a text has no character that is not blank. -/
def allBlank (cs : List Char) : Bool := cs.all isBlank

/-! ## §2. Trimming. -/

/-- Drops the longest tail whose characters all satisfy `p`. -/
def dropEndWhile (p : Char → Bool) (cs : List Char) : List Char :=
  (cs.reverse.dropWhile p).reverse

/-- Drops the characters satisfying `p` at both ends. -/
def trimBoth (p : Char → Bool) (cs : List Char) : List Char :=
  dropEndWhile p (cs.dropWhile p)

def trimEnd (cs : List Char) : List Char := dropEndWhile isBlank cs

def trim (cs : List Char) : List Char := trimBoth isBlank cs

/-- A string without the blanks at its end. -/
def trimmedEnd (s : String) : String := String.ofList (trimEnd s.toList)

/-! ## §3. Laws. -/

theorem dropWhile_append_of_all {p : Char → Bool} {xs : List Char}
    (h : xs.all p = true) (ys : List Char) :
    (xs ++ ys).dropWhile p = ys.dropWhile p := by
  induction xs with
  | nil => rfl
  | cons x xs ih =>
    simp only [List.all_cons, Bool.and_eq_true] at h
    simp [h.1, ih h.2]

theorem dropEndWhile_append_of_all {p : Char → Bool} {ys : List Char}
    (h : ys.all p = true) (xs : List Char) :
    dropEndWhile p (xs ++ ys) = dropEndWhile p xs := by
  have h' : ys.reverse.all p = true := by simpa using h
  simp [dropEndWhile, dropWhile_append_of_all h']

theorem trimEnd_append_of_blank {ys : List Char} (h : allBlank ys = true)
    (xs : List Char) : trimEnd (xs ++ ys) = trimEnd xs :=
  dropEndWhile_append_of_all h xs

end RenderDesk.Text
