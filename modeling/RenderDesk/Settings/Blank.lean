/-
  RenderDesk.Settings.Blank
  ─────────────────────────
  What may stand between the words of a settings file: blanks, comments to
  the end of a line, and comments between a slash with a star and a star with
  a slash, which may lie within each other.

  Main statements:
    * `skip_lineComment` — a comment to the end of a line is skipped;
    * `skip_open` — a comment that is not closed is a mistake.
-/

namespace RenderDesk.Settings

/-! ## §1. Blanks and comments. -/

/-- The characters with the Unicode property Pattern_White_Space. -/
def isSpacing (c : Char) : Bool :=
  let n := c.toNat
  (9 ≤ n && n ≤ 13) || n == 0x20 || n == 0x85 || n == 0x200E || n == 0x200F || n == 0x2028
    || n == 0x2029

/-- Where skipping has come to. -/
inductive Skipping where
  | outside
  /-- In a comment that ends with its line. -/
  | line
  /-- In a comment that lies within a number of others. -/
  | block (outer : Nat)
  deriving Repr, DecidableEq

/-- Skips blanks and comments; fails in a comment that is not closed, and at a
slash that begins none. -/
def skip : Skipping → List Char → Option (List Char)
  | .outside, '/' :: '/' :: rest => skip .line rest
  | .outside, '/' :: '*' :: rest => skip (.block 0) rest
  | .outside, '/' :: _ => none
  | .outside, c :: rest => if isSpacing c then skip .outside rest else some (c :: rest)
  | .line, c :: rest => if c = '\n' then skip .outside rest else skip .line rest
  | .block outer, '/' :: '*' :: rest => skip (.block (outer + 1)) rest
  | .block 0, '*' :: '/' :: rest => skip .outside rest
  | .block (outer + 1), '*' :: '/' :: rest => skip (.block outer) rest
  | .block outer, _ :: rest => skip (.block outer) rest
  | .block _, [] => none
  | .outside, [] | .line, [] => some []

/-! ## §2. Laws. -/

theorem skip_line {comment : List Char} (h : '\n' ∉ comment) (rest : List Char) :
    skip .line (comment ++ '\n' :: rest) = skip .outside rest := by
  induction comment with
  | nil => simp [skip]
  | cons c comment ih =>
    simp only [List.mem_cons, not_or] at h
    simp [skip, Ne.symm h.1, ih h.2]

theorem skip_lineComment {comment : List Char} (h : '\n' ∉ comment) (rest : List Char) :
    skip .outside ('/' :: '/' :: comment ++ '\n' :: rest) = skip .outside rest := by
  simpa [skip] using skip_line h rest

theorem skip_open {comment : List Char} (h : '*' ∉ comment) (outer : Nat) :
    skip (.block outer) comment = none := by
  induction comment with
  | nil => rfl
  | cons c comment ih =>
    simp only [List.mem_cons, not_or] at h
    have hc : c ≠ '*' := Ne.symm h.1
    cases comment with
    | nil => simp [skip]
    | cons d comment =>
      have hd : d ≠ '*' := fun hd => h.2 (by simp [hd])
      unfold skip
      split <;> simp_all

end RenderDesk.Settings
