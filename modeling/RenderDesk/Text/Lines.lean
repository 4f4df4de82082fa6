/-
  RenderDesk.Text.Lines
  ─────────────────────
  The lines of a text, in two readings.

  `rows` cuts at line feeds only; `lines` also takes off the carriage return
  of a row that a line feed ends.  In both, a final line feed ends the last
  row and starts no further one, and the empty text has no rows.

  Main statements:
    * `rows_row` — a row and its line feed in front add that row in front;
    * `rows_last` — a last row needs no line feed;
    * `lines_row` — a row that ends in no carriage return is a line;
    * `lines_return` — a carriage return before the line feed is not of the line.
-/

namespace RenderDesk.Text

/-! ## §1. Rows: cut at line feeds. -/

/-- The parts of a text between line feeds; a final line feed starts no row. -/
def rows : List Char → List (List Char)
  | [] => []
  | c :: cs =>
    if c = '\n' then [] :: rows cs
    else
      match rows cs with
      | [] => [[c]]
      | r :: rs => (c :: r) :: rs

/-- The rows, each ended by a line feed. -/
def unrows (rs : List (List Char)) : List Char :=
  rs.flatMap (· ++ ['\n'])

/-! ## §2. Lines: rows without the carriage return before a line feed. -/

/-- The lines of a text: a line ends at a line feed, or at a carriage return
with its line feed; a carriage return elsewhere is a character of its line. -/
def lines : List Char → List (List Char)
  | [] => []
  | '\n' :: cs => [] :: lines cs
  | '\r' :: '\n' :: cs => [] :: lines cs
  | c :: cs =>
    match lines cs with
    | [] => [[c]]
    | l :: ls => (c :: l) :: ls

@[simp] theorem rows_nil : rows [] = [] := rfl

@[simp] theorem rows_newline (cs : List Char) : rows ('\n' :: cs) = [] :: rows cs := by
  simp [rows]

theorem rows_row {l : List Char} (h : '\n' ∉ l) (cs : List Char) :
    rows (l ++ '\n' :: cs) = l :: rows cs := by
  induction l with
  | nil => simp
  | cons c l ih =>
    simp only [List.mem_cons, not_or] at h
    simp [rows, ih h.2, Ne.symm h.1]

theorem rows_last {l : List Char} (h : '\n' ∉ l) (hl : l ≠ []) : rows l = [l] := by
  induction l with
  | nil => exact absurd rfl hl
  | cons c l ih =>
    simp only [List.mem_cons, not_or] at h
    cases l with
    | nil => simp [rows, Ne.symm h.1]
    | cons d l =>
      have := ih h.2 (by simp)
      simp [rows, Ne.symm h.1] at this ⊢
      rw [this]

theorem lines_row {l : List Char} (hfeed : '\n' ∉ l) (hreturn : l.getLast? ≠ some '\r')
    (cs : List Char) : lines (l ++ '\n' :: cs) = l :: lines cs := by
  induction l with
  | nil => rfl
  | cons c l ih =>
    rw [List.mem_cons, not_or] at hfeed
    cases l with
    | nil =>
      have hc : c ≠ '\r' := by simpa using hreturn
      simp [lines, Ne.symm hfeed.1, hc]
    | cons d l =>
      rw [List.getLast?_cons_cons] at hreturn
      show lines (c :: (d :: l ++ '\n' :: cs)) = (c :: d :: l) :: lines cs
      -- what stands behind the first character is not a line feed
      rw [lines, ih hfeed.2 hreturn]
      · exact fun h => hfeed.1 h.symm
      · intro _ _ hsame
        injection hsame with hhead
        exact hfeed.2 (hhead ▸ List.mem_cons_self)

theorem lines_return {l : List Char} (hfeed : '\n' ∉ l) (cs : List Char) :
    lines (l ++ '\r' :: '\n' :: cs) = l :: lines cs := by
  induction l with
  | nil => rfl
  | cons c l ih =>
    rw [List.mem_cons, not_or] at hfeed
    show lines (c :: (l ++ '\r' :: '\n' :: cs)) = (c :: l) :: lines cs
    -- what stands behind the first character is not a line feed
    rw [lines, ih hfeed.2]
    · exact fun h => hfeed.1 h.symm
    · intro _ _ hsame
      cases l with
      | nil =>
        injection hsame with hhead
        exact absurd hhead (by decide)
      | cons d l =>
        injection hsame with hhead
        exact hfeed.2 (hhead ▸ List.mem_cons_self)

end RenderDesk.Text
