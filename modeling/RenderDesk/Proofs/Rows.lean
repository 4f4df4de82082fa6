/-
  RenderDesk.Proofs.Rows
  ──────────────────────
  The rows of a text, and what adding and dropping a line do to them.

  The text after adding a line is written from the rows and one more, the text
  after dropping one from the rows without the last.  Writing rows and reading
  them again gives the same rows; and writing the rows of a text gives the
  text, with a line feed behind it if it lacked one.

  Main statements:
    * `rows_unrows`, `finished_eq` — rows are written and read back;
    * `appendRow_eq`, `dropLastRow_eq` — what adding and dropping do to the rows.
-/
import RenderDesk.Document.Edit
import RenderDesk.Proofs.Trimming
import RenderDesk.Text.Lines

namespace RenderDesk.Document

open RenderDesk.Text

/-! ## §1. Rows and texts. -/

/-- A text whose last row, if it has one, is ended by a line feed. -/
def Finished (cs : List Char) : Prop := cs = [] ∨ ∃ body, cs = body ++ ['\n']

theorem rows_eq_nil_iff {cs : List Char} : rows cs = [] ↔ cs = [] := by
  constructor
  · intro h
    cases cs with
    | nil => rfl
    | cons c cs =>
      unfold rows at h
      split at h
      · cases h
      · split at h <;> cases h
  · rintro rfl
    rfl

theorem feed_not_mem_row {cs row : List Char} (h : row ∈ rows cs) : '\n' ∉ row := by
  induction cs generalizing row with
  | nil => cases h
  | cons c cs ih =>
    by_cases hc : c = '\n'
    · rw [rows, if_pos hc] at h
      rcases List.mem_cons.1 h with rfl | h
      · simp
      · exact ih h
    · rw [rows, if_neg hc] at h
      cases hrows : rows cs with
      | nil =>
        rw [hrows] at h
        rw [List.mem_singleton.1 h]
        simpa using Ne.symm hc
      | cons first rest =>
        rw [hrows] at h ih
        rcases List.mem_cons.1 h with rfl | h
        · simp [Ne.symm hc, ih List.mem_cons_self]
        · exact ih (List.mem_cons_of_mem _ h)

/-- **Rows that are written are read back.** -/
theorem rows_unrows {rs : List (List Char)} (h : ∀ row ∈ rs, '\n' ∉ row) : rows (unrows rs) = rs := by
  induction rs with
  | nil => rfl
  | cons row rs ih =>
    have hrest := ih fun other hother => h other (List.mem_cons_of_mem _ hother)
    show rows (row ++ ['\n'] ++ unrows rs) = row :: rs
    rw [List.append_assoc, List.singleton_append, rows_row (h row List.mem_cons_self), hrest]

theorem unrows_snoc (rs : List (List Char)) (row : List Char) :
    unrows (rs ++ [row]) = unrows rs ++ row ++ ['\n'] := by
  simp [unrows]

theorem unrows_finished (rs : List (List Char)) : Finished (unrows rs) := by
  rcases List.eq_nil_or_concat rs with rfl | ⟨front, row, rfl⟩
  · exact .inl rfl
  · rw [List.concat_eq_append, unrows_snoc]
    exact .inr ⟨_, rfl⟩

theorem finished_of_finished {cs : List Char} (h : Finished cs) : finished cs = cs := by
  unfold finished
  rcases h with rfl | ⟨body, rfl⟩
  · rfl
  · simp

theorem finished_of_not {cs : List Char} (h : ¬Finished cs) : finished cs = cs ++ ['\n'] := by
  unfold finished
  apply if_neg
  rw [Bool.or_eq_true, List.isEmpty_iff, beq_iff_eq, List.getLast?_eq_some_iff]
  exact h

theorem finished_cons (c : Char) {cs : List Char} (h : cs ≠ []) :
    finished (c :: cs) = c :: finished cs := by
  obtain ⟨d, ds, rfl⟩ := List.exists_cons_of_ne_nil h
  by_cases hlast : (d :: ds).getLast? = some '\n'
  · simp [finished, hlast]
  · simp [finished, hlast]

/-- **The rows of a text, written again, are the text**, finished. -/
theorem finished_eq (cs : List Char) : finished cs = unrows (rows cs) := by
  induction cs with
  | nil => rfl
  | cons c cs ih =>
    by_cases hc : c = '\n'
    · subst hc
      rw [rows_newline]
      show finished ('\n' :: cs) = '\n' :: unrows (rows cs)
      cases cs with
      | nil => rfl
      | cons d ds => rw [finished_cons _ (List.cons_ne_nil d ds), ih]
    · cases hrows : rows cs with
      | nil =>
        -- the row of this character is the only one, and not ended
        obtain rfl : cs = [] := rows_eq_nil_iff.1 hrows
        simp [finished, rows, unrows, hc]
      | cons row rs =>
        have hmore : cs ≠ [] := by
          rintro rfl
          cases hrows
        rw [finished_cons c hmore, ih, rows, if_neg hc, hrows]
        rfl

/-! ## §2. Adding and dropping a row. -/

/-- **Adding a row** puts it behind the others. -/
theorem appendRow_eq (text line : List Char) : appendRow text line = unrows (rows text ++ [line]) := by
  rw [unrows_snoc, ← finished_eq]
  rfl

theorem withoutFinalFeed_ended {text : List Char} (h : text ≠ []) :
    withoutFinalFeed text ++ ['\n'] = finished text := by
  unfold withoutFinalFeed
  by_cases hlast : text.getLast? = some '\n'
  · obtain ⟨body, rfl⟩ := List.getLast?_eq_some_iff.1 hlast
    rw [finished_of_finished (.inr ⟨body, rfl⟩)]
    simp
  · have hopen : ¬Finished text := by
      rintro (hnone | hfeed)
      · exact h hnone
      · exact hlast (List.getLast?_eq_some_iff.2 hfeed)
    rw [finished_of_not hopen]
    simp [hlast]

theorem dropEndWhile_of_finished {front : List Char} (h : Finished front) :
    dropEndWhile (· != '\n') front = front := by
  apply dropEndWhile_of_finish
  intro c hc
  rcases h with rfl | ⟨body, rfl⟩
  · cases hc
  · have hfeed : '\n' = c := by simpa using hc
    subst hfeed
    rfl

/-- **Dropping a row** takes off the last, and finishes the others. -/
theorem dropLastRow_eq (text : List Char) : dropLastRow text = unrows (rows text).dropLast := by
  rcases List.eq_nil_or_concat (rows text) with hnone | ⟨rs, row, hrows⟩
  · obtain rfl : text = [] := rows_eq_nil_iff.1 hnone
    rfl
  · rw [List.concat_eq_append] at hrows
    have hsome : text ≠ [] := by
      rintro rfl
      simp at hrows
    -- what the feed at the end is taken off is the front rows and the last one
    have hopen : withoutFinalFeed text = unrows rs ++ row := by
      have hended := withoutFinalFeed_ended hsome
      rw [finished_eq, hrows, unrows_snoc] at hended
      exact List.append_cancel_right hended
    have hplain : row.all (· != '\n') = true := by
      rw [List.all_eq_true]
      intro c hc
      rw [bne_iff_ne]
      rintro rfl
      exact feed_not_mem_row (hrows ▸ List.mem_concat_self) hc
    calc dropLastRow text = dropEndWhile (· != '\n') (withoutFinalFeed text) := rfl
      _ = dropEndWhile (· != '\n') (unrows rs) := by
          rw [hopen, dropEndWhile_append_of_all hplain]
      _ = unrows rs := dropEndWhile_of_finished (unrows_finished rs)
      _ = unrows (rows text).dropLast := by rw [hrows, List.dropLast_concat]

theorem rows_appendRow {line : List Char} (h : '\n' ∉ line) (text : List Char) :
    rows (appendRow text line) = rows text ++ [line] := by
  rw [appendRow_eq, rows_unrows]
  intro row hrow
  rcases List.mem_append.1 hrow with hrow | hrow
  · exact feed_not_mem_row hrow
  · rw [List.mem_singleton.1 hrow]
    exact h

theorem rows_dropLastRow (text : List Char) : rows (dropLastRow text) = (rows text).dropLast := by
  rw [dropLastRow_eq, rows_unrows]
  intro row hrow
  exact feed_not_mem_row (List.dropLast_subset _ hrow)

theorem dropLastRow_start (text : List Char) : dropLastRow text <+: text := by
  have hopen : withoutFinalFeed text <+: text := by
    unfold withoutFinalFeed
    split
    · exact List.dropLast_prefix text
    · exact List.prefix_rfl
  obtain ⟨back, hback, -⟩ := dropEndWhile_parts (· != '\n') (withoutFinalFeed text)
  have hfront : dropLastRow text <+: withoutFinalFeed text := ⟨back, hback.symm⟩
  exact hfront.trans hopen

/-- Adding the row that was dropped gives the text back, finished. -/
theorem appendRow_dropLastRow {text row : List Char} (h : (rows text).getLast? = some row) :
    appendRow (dropLastRow text) row = finished text := by
  obtain ⟨rs, hrows⟩ := List.getLast?_eq_some_iff.1 h
  rw [appendRow_eq, rows_dropLastRow, finished_eq, hrows, List.dropLast_concat]

end RenderDesk.Document
