/-
  RenderDesk.Proofs.Undoing
  ─────────────────────────
  Adding a line and dropping the last one undo each other.

  Both act on the rows of a text, so all that is said of commands in a row is
  said of lists.  Writing the rows of a text gives the text, with a line feed
  behind it if it lacked one.

  Main statements:
    * `rows_pops` — what dropping several times does;
    * `text_typed` — typing the rows of a text writes them;
    * `line_edits` — what the commands do to the text at a desk.
-/
import RenderDesk.Proofs.Keeping
import RenderDesk.Proofs.Typing

namespace RenderDesk.Terminal

open RenderDesk.Document
open RenderDesk.Text

/-! ## §1. Commands in a row. -/

/-- The rows of a text. -/
def rowsOf (text : String) : List String := (rows text.toList).map String.ofList

/-- A text that is empty or ends in a line feed. -/
def Complete (text : String) : Prop := text = "" ∨ ∃ body : String, text = body ++ "\n"

/-- The desk after commands, one behind another. -/
def Desk.through (read : Reader) (d : Desk) (commands : List Command) : Desk :=
  commands.foldl (fun d c => (d.command read c).1) d

/-- The text of the document at a desk. -/
def Desk.text (d : Desk) : String := d.session.document.text

theorem through_text (read : Reader) (d : Desk) (commands : List Command) :
    (d.through read commands).text = textAfter read d.text commands := by
  induction commands generalizing d with
  | nil => rfl
  | cons c commands ih =>
    show ((d.command read c).1.through read commands).text = _
    rw [ih, Desk.text, Desk.command_text]
    rfl

theorem complete_iff {text : String} : Complete text ↔ Finished text.toList := by
  unfold Complete Finished
  rw [String.toList_eq_nil_iff]
  apply or_congr_right
  constructor
  · rintro ⟨body, rfl⟩
    exact ⟨body.toList, by simp⟩
  · rintro ⟨body, hbody⟩
    refine ⟨String.ofList body, ?_⟩
    rw [← String.toList_inj, hbody]
    simp

theorem rowsOf_ofList (cs : List Char) : rowsOf (String.ofList cs) = (rows cs).map String.ofList := by
  rw [rowsOf, String.toList_ofList]

theorem rowsOf_appendLine {line : String} (h : '\n' ∉ line.toList) (text : String) :
    rowsOf (appendLine text line) = rowsOf text ++ [line] := by
  rw [appendLine, rowsOf_ofList, rows_appendRow h, List.map_append]
  simp [rowsOf]

theorem rowsOf_dropLastLine (text : String) :
    rowsOf (dropLastLine text) = (rowsOf text).dropLast := by
  rw [dropLastLine, rowsOf_ofList, rows_dropLastRow, rowsOf, List.map_dropLast]

theorem rowsOf_eq_nil_iff {text : String} : rowsOf text = [] ↔ text = "" := by
  rw [rowsOf, List.map_eq_nil_iff, rows_eq_nil_iff, String.toList_eq_nil_iff]

/-- Dropping undoes adding, up to the line feed that finishes the text. -/
theorem dropLastLine_appendLine {line : String} (h : '\n' ∉ line.toList) (text : String) :
    dropLastLine (appendLine text line) = String.ofList (finished text.toList) := by
  rw [dropLastLine, appendLine, String.toList_ofList, dropLastRow_appendRow h]

theorem appendLine_dropLastLine {text last : String} (h : (rowsOf text).getLast? = some last) :
    appendLine (dropLastLine text) last = String.ofList (finished text.toList) := by
  rw [rowsOf, List.getLast?_map, Option.map_eq_some_iff] at h
  obtain ⟨row, hrow, rfl⟩ := h
  rw [appendLine, dropLastLine, String.toList_ofList, String.toList_ofList,
    appendRow_dropLastRow hrow]

theorem ofList_finished {text : String} (h : Complete text) :
    String.ofList (finished text.toList) = text := by
  rw [finished_of_finished (complete_iff.1 h), String.ofList_toList]

/-- **Each drop takes one row.** -/
theorem rows_pops (read : Reader) (n : Nat) (text : String) :
    (rowsOf (textAfter read text (List.replicate n .pop))).length = (rowsOf text).length - n := by
  induction n generalizing text with
  | zero => rfl
  | succ n ih =>
    rw [List.replicate_succ]
    show (rowsOf (textAfter read (dropLastLine text) (List.replicate n .pop))).length = _
    rw [ih, rowsOf_dropLastLine, List.length_dropLast]
    omega

/-! ## §2. Typing a text. -/

theorem getLast?_escape (line : List Char) : (escape line).getLast? = line.getLast? := by
  unfold escape
  split
  · exact List.getLast?_cons_cons
  · rfl

/-- A row that line ends do not end is typed as `escaped` says. -/
theorem parse_escaped {row : String} (h : ∀ c ∈ row.toList.getLast?, c ≠ '\r' ∧ c ≠ '\n') :
    Command.parse (escaped row) = .append row := by
  have hstripped : Stripped (escaped row) (escaped row) := by
    refine ⟨⟨"", by simp, by simp⟩, ?_⟩
    rw [escaped, String.toList_ofList, getLast?_escape]
    exact h
  exact (hstripped.append_iff row).2 rfl

/-- A row of a finished text stands in it with its line feed. -/
theorem row_in_finished {cs row : List Char} (h : Finished cs) (hrow : row ∈ rows cs) :
    row ++ ['\n'] <:+: cs := by
  have hwhole : cs = ((rows cs).map (· ++ ['\n'])).flatten := by
    rw [← List.flatMap_def]
    exact (finished_of_finished h).symm.trans (finished_eq cs)
  rw [hwhole]
  exact List.infix_of_mem_flatten (List.mem_map_of_mem hrow)

/-- What is typed row by row is written row by row. -/
theorem textAfter_typed (read : Reader) {rs : List (List Char)}
    (h : ∀ row ∈ rs, '\n' ∉ row ∧ row.getLast? ≠ some '\r') :
    textAfter read "" (rs.map fun row => Command.parse (escaped (String.ofList row)))
      = String.ofList (unrows rs) := by
  induction rs using List.reverseRecOn with
  | nil => rfl
  | append_singleton rs row ih =>
    have hfront := ih fun other hother => h other (List.mem_append_left _ hother)
    obtain ⟨hfeed, hreturn⟩ := h row (List.mem_append_right _ List.mem_cons_self)
    have hplain : ∀ c ∈ (String.ofList row).toList.getLast?, c ≠ '\r' ∧ c ≠ '\n' := by
      intro c hc
      rw [String.toList_ofList] at hc
      constructor
      · rintro rfl
        exact hreturn hc
      · rintro rfl
        exact hfeed (List.mem_of_mem_getLast? hc)
    have hrows : rows (unrows rs) = rs :=
      rows_unrows fun other hother => (h other (List.mem_append_left _ hother)).1
    rw [List.map_append, List.map_singleton, textAfter_append, hfront, parse_escaped hplain]
    show appendLine (String.ofList (unrows rs)) (String.ofList row) = _
    rw [appendLine, String.toList_ofList, String.toList_ofList, appendRow_eq, hrows]

/-- **Typing the rows of a text gives the text.** -/
theorem text_typed (read : Reader) {text : String} (h : Complete text)
    (hreturn : ¬"\r\n".toList <:+: text.toList) :
    textAfter read "" ((rowsOf text).map fun row => Command.parse (escaped row)) = text := by
  have hfinished := complete_iff.1 h
  have hrows : ∀ row ∈ rows text.toList, '\n' ∉ row ∧ row.getLast? ≠ some '\r' := by
    intro row hrow
    refine ⟨feed_not_mem_row hrow, ?_⟩
    intro hlast
    -- a row that ended so would stand in the text with both characters of a line end
    obtain ⟨front, rfl⟩ := List.getLast?_eq_some_iff.1 hlast
    have hends : "\r\n".toList <:+: front ++ ['\r'] ++ ['\n'] := ⟨front, [], by simp⟩
    exact hreturn (hends.trans (row_in_finished hfinished hrow))
  rw [rowsOf, List.map_map]
  calc textAfter read "" ((rows text.toList).map fun row => Command.parse (escaped (String.ofList row)))
      = String.ofList (unrows (rows text.toList)) := textAfter_typed read hrows
    _ = String.ofList (finished text.toList) := by rw [finished_eq]
    _ = text := by rw [finished_of_finished hfinished, String.ofList_toList]

/-! ## §3. At a desk. -/

/-- What the commands that edit by lines do to the text at a desk. -/
structure LineEdits (read : Reader) (d : Desk) : Prop where
  /-- A line is added behind the others, and ended. -/
  append : ∀ line : String, '\n' ∉ line.toList →
    rowsOf (d.through read [.append line]).text = rowsOf d.text ++ [line]
      ∧ ∃ body : String, (d.through read [.append line]).text = body ++ "\n"
  /-- The last line is taken off, and what is left is a start of the text. -/
  pop : (d.through read [.pop]).text.toList <+: d.text.toList
    ∧ rowsOf (d.through read [.pop]).text = (rowsOf d.text).dropLast
    ∧ Complete (d.through read [.pop]).text
  /-- Dropping undoes adding, up to a line feed that was lacking. -/
  appendPop : ∀ line : String, '\n' ∉ line.toList →
    (Complete d.text → (d.through read [.append line, .pop]).text = d.text)
      ∧ (¬Complete d.text → (d.through read [.append line, .pop]).text = d.text ++ "\n")
  /-- Adding the last line again undoes dropping it. -/
  popAppend : d.text ≠ "" → Complete d.text → ∃ last, (rowsOf d.text).getLast? = some last
    ∧ (d.through read [.pop, .append last]).text = d.text
  /-- As many drops as there are lines leave nothing, and fewer do not. -/
  pops : ∀ n, (d.through read (List.replicate n .pop)).text = "" ↔ (rowsOf d.text).length ≤ n
  /-- Every text can be typed by its lines. -/
  typed : d.text = "" → ∀ text : String, Complete text → ¬"\r\n".toList <:+: text.toList →
    (d.through read ((rowsOf text).map fun row => Command.parse (escaped row))).text = text

/-- **The commands edit by lines, and undo each other**, at every desk. -/
theorem line_edits (read : Reader) (d : Desk) : LineEdits read d where
  append := by
    intro line hline
    rw [through_text]
    refine ⟨rowsOf_appendLine hline d.text, String.ofList (finished d.text.toList ++ line.toList), ?_⟩
    show String.ofList (appendRow d.text.toList line.toList) = _
    rw [appendRow, String.ofList_append]
  pop := by
    have hpop : (d.through read [.pop]).text = dropLastLine d.text := through_text read d [.pop]
    rw [hpop]
    refine ⟨?_, rowsOf_dropLastLine d.text, ?_⟩
    · rw [dropLastLine, String.toList_ofList]
      exact dropLastRow_start d.text.toList
    · rw [complete_iff, dropLastLine, String.toList_ofList, dropLastRow_eq]
      exact unrows_finished _
  appendPop := by
    intro line hline
    have hboth : (d.through read [.append line, .pop]).text
        = String.ofList (finished d.text.toList) := by
      rw [through_text]
      exact dropLastLine_appendLine hline d.text
    rw [hboth]
    constructor
    · exact ofList_finished
    · intro hopen
      rw [complete_iff] at hopen
      rw [finished_of_not hopen, String.ofList_append, String.ofList_toList]
  popAppend := by
    intro hsome hcomplete
    have hrows : rowsOf d.text ≠ [] := mt rowsOf_eq_nil_iff.1 hsome
    refine ⟨_, List.getLast?_eq_some_getLast hrows, ?_⟩
    rw [through_text]
    exact (appendLine_dropLastLine (List.getLast?_eq_some_getLast hrows)).trans
      (ofList_finished hcomplete)
  pops := by
    intro n
    rw [through_text, ← rowsOf_eq_nil_iff, ← List.length_eq_zero_iff, rows_pops]
    omega
  typed := by
    intro hempty text hcomplete hreturn
    rw [through_text, hempty]
    exact text_typed read hcomplete hreturn

theorem colon_rows_typed :
    Complete ":a\n\n:b\n" ∧ ¬"\r\n".toList <:+: ":a\n\n:b\n".toList
      ∧ (({} : Desk).through (fun _ => .ok "") ((rowsOf ":a\n\n:b\n").map fun row =>
          Command.parse (escaped row))).text = ":a\n\n:b\n" := by
  have hcomplete : Complete ":a\n\n:b\n" := .inr ⟨":a\n\n:b", by cbv⟩
  have hreturn : ¬"\r\n".toList <:+: ":a\n\n:b\n".toList := by decide +kernel
  have hempty : ({} : Desk).text = "" := rfl
  have hedits := line_edits (fun _ => .ok "") {}
  exact ⟨hcomplete, hreturn, hedits.typed hempty _ hcomplete hreturn⟩

end RenderDesk.Terminal
