/-
  RenderDesk.Document.Edit
  ────────────────────────
  Editing a text by whole lines: adding one at the end, dropping the last.

  Main statement: `dropLastRow_appendRow` — dropping undoes adding, up to the
  line feed that adding gives an unfinished last line.
-/

namespace RenderDesk.Document

/-! ## §1. On characters. -/

/-- A text that is empty or ends in a line feed; adds the line feed. -/
def finished (text : List Char) : List Char :=
  if text.isEmpty || text.getLast? == some '\n' then text else text ++ ['\n']

/-- Adds a line at the end of a text. -/
def appendRow (text line : List Char) : List Char :=
  finished text ++ line ++ ['\n']

/-- A text without the line feed at its end. -/
def withoutFinalFeed (text : List Char) : List Char :=
  if text.getLast? == some '\n' then text.dropLast else text

/-- Drops the last line of a text, finished or not. -/
def dropLastRow (text : List Char) : List Char :=
  ((withoutFinalFeed text).reverse.dropWhile (· != '\n')).reverse

/-! ## §2. On strings. -/

def appendLine (text line : String) : String :=
  String.ofList (appendRow text.toList line.toList)

def dropLastLine (text : String) : String :=
  String.ofList (dropLastRow text.toList)

/-! ## §3. Laws. -/

theorem finished_ends (text : List Char) :
    finished text = [] ∨ ∃ body, finished text = body ++ ['\n'] := by
  unfold finished
  split
  · next h =>
    simp only [Bool.or_eq_true, List.isEmpty_iff, beq_iff_eq] at h
    cases h with
    | inl h => exact Or.inl h
    | inr h =>
      obtain ⟨body, rfl⟩ := List.getLast?_eq_some_iff.1 h
      exact Or.inr ⟨body, rfl⟩
  · exact Or.inr ⟨text, rfl⟩

theorem dropLastRow_appendRow {line : List Char} (h : '\n' ∉ line) (text : List Char) :
    dropLastRow (appendRow text line) = finished text := by
  have hrev : ∀ c ∈ line.reverse, (c != '\n') = true := by
    intro c hc
    simp only [List.mem_reverse] at hc
    exact bne_iff_ne.2 fun he => h (he ▸ hc)
  have hdrop : ∀ tail : List Char,
      (line.reverse ++ tail).dropWhile (· != '\n') = tail.dropWhile (· != '\n') :=
    fun tail => List.dropWhile_append_of_pos hrev
  simp only [appendRow, dropLastRow, withoutFinalFeed, List.getLast?_append,
    List.getLast?_singleton, Option.some_or, beq_self_eq_true, if_true,
    List.dropLast_concat, List.reverse_append, hdrop]
  rcases finished_ends text with he | ⟨body, he⟩
  · simp [he]
  · simp [he]

end RenderDesk.Document
