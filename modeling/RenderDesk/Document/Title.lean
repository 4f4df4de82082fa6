/-
  RenderDesk.Document.Title
  ─────────────────────────
  The title of a document, from its metadata block.

  The block opens with `---` on the first line that is not blank and ends at
  `---` or `...`.  The first line of it whose key is `title` decides: its
  value, trimmed and without one matching pair of quotes, is the title,
  unless it is empty.

  Main statements:
    * `titleIn_closing` — nothing after the closing line counts;
    * `titleIn_title` — the first `title` line decides.
-/
import RenderDesk.Text.Blank
import RenderDesk.Text.Cut
import RenderDesk.Text.Lines

namespace RenderDesk.Document

open RenderDesk.Text

/-! ## §1. The lines of the block. -/

/-- The mark that some editors put in front of a text. -/
def byteOrderMark : Char := Char.ofNat 0xFEFF

/-- Whether a line opens the block. -/
def opensBlock (line : List Char) : Bool := trimEnd line == "---".toList

/-- Whether a line closes the block. -/
def closesBlock (line : List Char) : Bool :=
  trimEnd line == "---".toList || trimEnd line == "...".toList

/-- Takes off one pair of equal quotes around a value. -/
def unquote : List Char → List Char
  | [] => []
  | q :: rest =>
    if (q.toNat == 0x22 || q.toNat == 0x27) && rest.getLast? == some q then rest.dropLast
    else q :: rest

/-- The value of a line whose key is `title`, as it is to be shown. -/
def titleValue? (line : List Char) : Option (List Char) :=
  match cutAt ':' (trimEnd line) with
  | some (key, value) => if trim key == "title".toList then some (unquote (trim value)) else none
  | none => none

/-! ## §2. The title. -/

/-- The title in the lines after the opening one. -/
def titleIn : List (List Char) → Option (List Char)
  | [] => none
  | line :: rest =>
    if closesBlock line then none
    else
      match titleValue? line with
      | some [] => none
      | some value => some value
      | none => titleIn rest

/-- The lines from the first one that is not blank on. -/
def contentLines (cs : List Char) : List (List Char) :=
  (lines (cs.dropWhile (· == byteOrderMark))).dropWhile allBlank

/-- The title of a text given by its characters. -/
def titleOf (cs : List Char) : Option (List Char) :=
  match contentLines cs with
  | first :: rest => if opensBlock first then titleIn rest else none
  | [] => none

/-- The title of a document, when its metadata block has one. -/
def title (text : String) : Option String := (titleOf text.toList).map String.ofList

/-! ## §3. Laws. -/

theorem titleIn_closing {line : List Char} (h : closesBlock line = true)
    (rest : List (List Char)) : titleIn (line :: rest) = none := by
  simp [titleIn, h]

theorem titleIn_title {line value : List Char} (hc : closesBlock line = false)
    (hv : titleValue? line = some value) (hne : value ≠ []) (rest : List (List Char)) :
    titleIn (line :: rest) = some value := by
  cases value with
  | nil => exact absurd rfl hne
  | cons c cs => simp [titleIn, hc, hv]

end RenderDesk.Document
