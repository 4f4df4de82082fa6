/-
  RenderDesk.Proofs.Settled
  ─────────────────────────
  Typing more text does not change a title that is settled.

  A line that is typed comes behind the lines of the text.  Those are read as
  before, but for the last one: if it had no line feed it gets one, and a
  carriage return at its end then goes to the end of the line.  Whatever the
  title is read from does not look at white space at the end of a line, so the
  lines say the same as before.  The title is settled when one of them decides
  it: the first, when it opens no block, and otherwise a line of the block with
  the key of the title or one that closes the block.  Whatever is read behind
  that line does not count.

  Main statements:
    * `lines_finished` — lines of a text with more behind it;
    * `titleIn_decided` — nothing behind a line that decides counts;
    * `settled_appendLine`, `title_appendLine` — one line more;
    * `title_appended` — many lines more;
    * `title_kept` — what typing does to the title at a desk.
-/
import Mathlib.Data.List.Forall2
import RenderDesk.Proofs.Metadata
import RenderDesk.Proofs.Undoing

namespace RenderDesk.Document

open RenderDesk.Text

/-! ## §1. Lines of a text with more behind it. -/

theorem lines_eq_nil {cs : List Char} (h : lines cs = []) : cs = [] := by
  unfold lines at h
  split at h
  · rfl
  · cases h
  · cases h
  · split at h <;> cases h

theorem lines_cons {c : Char} {cs l : List Char} {ls : List (List Char)} (hfeed : c ≠ '\n')
    (hreturn : c = '\r' → cs.head? ≠ some '\n') (h : lines cs = l :: ls) :
    lines (c :: cs) = (c :: l) :: ls := by
  rw [lines, h]
  · exact hfeed
  · rintro behind rfl rfl
    exact hreturn rfl rfl

theorem finished_newline (cs : List Char) : finished ('\n' :: cs) = '\n' :: finished cs := by
  cases cs with
  | nil => rfl
  | cons c cs => exact finished_cons '\n' (List.cons_ne_nil c cs)

theorem finished_append (front : List Char) {back : List Char} (h : back ≠ []) :
    finished (front ++ back) = front ++ finished back := by
  induction front with
  | nil => rfl
  | cons c front ih =>
    rw [List.cons_append, finished_cons c (List.append_ne_nil_of_right_ne_nil front h), ih]
    rfl

theorem head?_finished {cs : List Char} (h : cs ≠ []) (more : List Char) :
    (finished cs ++ more).head? = cs.head? := by
  obtain ⟨c, cs, rfl⟩ := List.exists_cons_of_ne_nil h
  unfold finished
  split <;> rfl

theorem Row.cons {line row : List Char} (h : Row line row) (c : Char) :
    Row (c :: line) (c :: row) := by
  rcases h with rfl | rfl
  · exact .inl rfl
  · exact .inr rfl

/-- **The lines of a text are rows of the longer text**, and what is added
stands in lines of its own. -/
theorem lines_finished (cs more : List Char) : ∃ rs, List.Forall₂ Row (lines cs) rs
    ∧ lines (finished cs ++ more) = rs ++ lines more := by
  fun_induction lines cs with
  | case1 => exact ⟨[], .nil, rfl⟩
  | case2 cs ih =>
    obtain ⟨rs, hrows, hmore⟩ := ih
    refine ⟨[] :: rs, .cons (.inl rfl) hrows, ?_⟩
    rw [finished_newline]
    exact congrArg (List.cons []) hmore
  | case3 cs ih =>
    obtain ⟨rs, hrows, hmore⟩ := ih
    refine ⟨[] :: rs, .cons (.inl rfl) hrows, ?_⟩
    rw [finished_cons '\r' (List.cons_ne_nil _ _), finished_newline]
    exact congrArg (List.cons []) hmore
  | case4 c cs hfeed hreturn hlines ih =>
    obtain rfl : cs = [] := lines_eq_nil hlines
    have hends : finished [c] = [c, '\n'] := by simpa [finished] using hfeed
    rw [hends]
    by_cases hc : c = '\r'
    · -- the character goes to the end of the line that it was
      subst hc
      exact ⟨[[]], .cons (.inr rfl) .nil, rfl⟩
    · have hplain : '\n' ∉ [c] := by simpa using Ne.symm hfeed
      have hlast : [c].getLast? ≠ some '\r' := by simpa using hc
      exact ⟨[[c]], .cons (.inl rfl) .nil, lines_row hplain hlast more⟩
  | case5 c cs hfeed hreturn l ls hlines ih =>
    obtain ⟨rs, hrows, hmore⟩ := ih
    have hcs : cs ≠ [] := by
      rintro rfl
      cases hlines
    rw [hlines] at hrows
    obtain ⟨row, rs, hrow, hrest, rfl⟩ := List.forall₂_cons_left_iff.1 hrows
    refine ⟨(c :: row) :: rs, .cons (hrow.cons c) hrest, ?_⟩
    rw [finished_cons c hcs]
    show lines (c :: (finished cs ++ more)) = (c :: row) :: (rs ++ lines more)
    apply lines_cons hfeed ?_ hmore
    intro hc hhead
    -- a line feed there would have been in the text before
    rw [head?_finished hcs] at hhead
    obtain ⟨behind, rfl⟩ := List.head?_eq_some_iff.1 hhead
    exact hreturn behind hc rfl

theorem dropWhile_rows {ls rs : List (List Char)} (hrows : List.Forall₂ Row ls rs)
    (h : ls.dropWhile allBlank ≠ []) (more : List (List Char)) :
    ∃ kept, List.Forall₂ Row (ls.dropWhile allBlank) kept
      ∧ (rs ++ more).dropWhile allBlank = kept ++ more := by
  induction hrows with
  | nil => exact absurd rfl h
  | @cons line row ls rs hrow hrows ih =>
    by_cases hblank : allBlank line = true
    · rw [List.dropWhile_cons_of_pos hblank] at h ⊢
      rw [List.cons_append, List.dropWhile_cons_of_pos (hrow.allBlank_eq.trans hblank)]
      exact ih h
    · have hseen : ¬allBlank row = true := by rwa [hrow.allBlank_eq]
      rw [List.dropWhile_cons_of_neg hblank, List.cons_append, List.dropWhile_cons_of_neg hseen]
      exact ⟨row :: rs, .cons hrow hrows, rfl⟩

/-- The lines from the first that is not blank on are rows of those of the longer
text, if there is one. -/
theorem contentLines_finished {cs : List Char} (h : contentLines cs ≠ []) (more : List Char) :
    ∃ rs, List.Forall₂ Row (contentLines cs) rs
      ∧ contentLines (finished cs ++ more) = rs ++ lines more := by
  have hrest : cs.dropWhile (· == byteOrderMark) ≠ [] := by
    intro hnone
    rw [contentLines, hnone] at h
    exact h rfl
  have hmarks : (cs.takeWhile (· == byteOrderMark)).all (· == byteOrderMark) = true :=
    List.all_takeWhile
  have hstop := List.head?_dropWhile_not (· == byteOrderMark) cs
  have hparts : cs = cs.takeWhile (· == byteOrderMark) ++ cs.dropWhile (· == byteOrderMark) :=
    List.takeWhile_append_dropWhile.symm
  unfold contentLines at h ⊢
  generalize cs.dropWhile (· == byteOrderMark) = rest at h hrest hstop hparts ⊢
  -- of the longer text as well, only the marks in front are dropped
  have hlonger : (finished cs ++ more).dropWhile (· == byteOrderMark) = finished rest ++ more := by
    rw [hparts, finished_append _ hrest, List.append_assoc, dropWhile_append_of_all hmarks]
    rw [← head?_finished hrest more] at hstop
    cases hwhole : finished rest ++ more with
    | nil => rfl
    | cons c behind =>
      rw [hwhole] at hstop
      exact List.dropWhile_cons_of_neg (ne_true_of_eq_false hstop)
  obtain ⟨rs, hrows, hlines⟩ := lines_finished rest more
  rw [hlonger, hlines]
  exact dropWhile_rows hrows h (lines more)

/-! ## §2. Lines that decide. -/

/-- A line of the block that settles the title: it has the key of the title, or
closes the block. -/
def Decides (line : List Char) : Prop :=
  HasTitleKey line ∨ IsMark "---" line ∨ IsMark "..." line

theorem decides_iff {line : List Char} : Decides line ↔ ¬IsOther line := by
  unfold Decides IsOther
  tauto

theorem Row.isOther_iff {line row : List Char} (h : Row line row) : IsOther row ↔ IsOther line := by
  rw [Document.isOther_iff, Document.isOther_iff, h.closesBlock_eq, h.titleValue?_eq]

/-- At a line that decides, what is behind it does not count. -/
theorem titleIn_row {line row : List Char} (hrow : Row line row) (h : Decides line)
    (rest behind : List (List Char)) : titleIn (row :: behind) = titleIn (line :: rest) := by
  rw [decides_iff, Document.isOther_iff] at h
  rw [titleIn, titleIn, hrow.closesBlock_eq, hrow.titleValue?_eq]
  cases hclose : closesBlock line with
  | true => rfl
  | false =>
    cases hvalue : titleValue? line with
    | none => exact absurd ⟨hclose, hvalue⟩ h
    | some value => cases value <;> rfl

/-- **Nothing behind a line that decides counts.** -/
theorem titleIn_decided {ls rs : List (List Char)} (hrows : List.Forall₂ Row ls rs)
    (h : ∃ line ∈ ls, Decides line) (more : List (List Char)) :
    titleIn (rs ++ more) = titleIn ls := by
  induction hrows with
  | nil =>
    obtain ⟨line, hline, -⟩ := h
    cases hline
  | @cons first row ls rs hrow hrows ih =>
    by_cases hfirst : Decides first
    · exact titleIn_row hrow hfirst ls (rs ++ more)
    · have hother : IsOther first := not_not.1 (mt decides_iff.2 hfirst)
      obtain ⟨line, hline, hdecides⟩ := h
      rcases List.mem_cons.1 hline with rfl | hline
      · exact absurd hdecides hfirst
      · rw [List.cons_append, titleIn_other (hrow.isOther_iff.2 hother), titleIn_other hother]
        exact ih ⟨line, hline, hdecides⟩

/-! ## §3. Settled titles. -/

/-- A text with a first line that is not blank, which opens no block, or one with
a line in it that decides. -/
def Settled (text : String) : Prop :=
  ∃ first rest, contentLines text.toList = first :: rest
    ∧ (IsMark "---" first → ∃ line ∈ rest, Decides line)

/-- A text whose title is settled and is none: its first line opens no block, or
one that is closed with no line of the title in it. -/
def Untitled (text : String) : Prop :=
  ∃ first rest, contentLines text.toList = first :: rest
    ∧ (IsMark "---" first → ∃ header closing behind, rest = header ++ closing :: behind
      ∧ (∀ line ∈ header, ¬HasTitleKey line) ∧ (IsMark "---" closing ∨ IsMark "..." closing))

variable {text : String}

theorem decides_row {line row : List Char} (hrow : Row line row) (h : Decides line) :
    Decides row := by
  rw [decides_iff] at h ⊢
  rwa [hrow.isOther_iff]

theorem decides_rows {ls rs : List (List Char)} (hrows : List.Forall₂ Row ls rs)
    (h : ∃ line ∈ ls, Decides line) : ∃ row ∈ rs, Decides row := by
  obtain ⟨line, hline, hdecides⟩ := h
  induction hrows with
  | nil => cases hline
  | @cons first row ls rs hrow hrows ih =>
    rcases List.mem_cons.1 hline with rfl | hline
    · exact ⟨row, List.mem_cons_self, decides_row hrow hdecides⟩
    · obtain ⟨other, hmem, hother⟩ := ih hline
      exact ⟨other, List.mem_cons_of_mem _ hmem, hother⟩

/-- The lines of a text with one more line behind it. -/
theorem contentLines_appendLine {first : List Char} {rest : List (List Char)}
    (h : contentLines text.toList = first :: rest) (line : String) :
    ∃ row rs, Row first row ∧ List.Forall₂ Row rest rs
      ∧ contentLines (appendLine text line).toList
        = row :: (rs ++ lines (line.toList ++ ['\n'])) := by
  have hsome : contentLines text.toList ≠ [] := by
    rw [h]
    exact List.cons_ne_nil first rest
  have hchars : (appendLine text line).toList
      = finished text.toList ++ (line.toList ++ ['\n']) := by
    rw [appendLine, String.toList_ofList, appendRow, List.append_assoc]
  obtain ⟨rows, hrows, hlonger⟩ := contentLines_finished hsome (line.toList ++ ['\n'])
  rw [h] at hrows
  rw [← hchars] at hlonger
  obtain ⟨row, rs, hrow, hrest, rfl⟩ := List.forall₂_cons_left_iff.1 hrows
  exact ⟨row, rs, hrow, hrest, hlonger⟩

/-- **One line more leaves a settled title settled.** -/
theorem settled_appendLine (h : Settled text) (line : String) : Settled (appendLine text line) := by
  obtain ⟨first, rest, hcontent, hdecides⟩ := h
  obtain ⟨row, rs, hrow, hrest, hlonger⟩ := contentLines_appendLine hcontent line
  refine ⟨row, _, hlonger, ?_⟩
  intro hmark
  have hopening : IsMark "---" first := by
    rwa [← opensBlock_iff, ← hrow.opensBlock_eq, opensBlock_iff]
  obtain ⟨said, hmem, hsaid⟩ := decides_rows hrest (hdecides hopening)
  exact ⟨said, List.mem_append_left _ hmem, hsaid⟩

/-- **One line more leaves a settled title the same.** -/
theorem title_appendLine (h : Settled text) (line : String) :
    title (appendLine text line) = title text := by
  obtain ⟨first, rest, hcontent, hdecides⟩ := h
  obtain ⟨row, rs, hrow, hrest, hlonger⟩ := contentLines_appendLine hcontent line
  apply congrArg (Option.map String.ofList)
  rw [titleOf_content hlonger, titleOf_content hcontent, hrow.opensBlock_eq]
  by_cases hopens : opensBlock first = true
  · rw [if_pos hopens, if_pos hopens]
    exact titleIn_decided hrest (hdecides ((opensBlock_iff first).1 hopens)) _
  · rw [if_neg hopens, if_neg hopens]

/-- **However many lines are added**, a settled title stays. -/
theorem title_appended (h : Settled text) (typed : List String) :
    title (typed.foldl appendLine text) = title text := by
  induction typed generalizing text with
  | nil => rfl
  | cons line typed ih => exact (ih (settled_appendLine h line)).trans (title_appendLine h line)

/-- A title that is found is settled. -/
theorem settled_of_title {name : String} (h : title text = some name) : Settled text := by
  obtain ⟨opening, ls, hcontent, -, hin⟩ := titleOf_eq_some_iff.1 (title_eq_some_iff.1 h)
  obtain ⟨header, line, rest, rfl, -, hvalue, -⟩ := titleIn_eq_some_iff.1 hin
  refine ⟨opening, _, hcontent, fun _ => ⟨line, ?_, .inl (hasTitleKey_of_titleValue? hvalue)⟩⟩
  exact List.mem_append_right _ List.mem_cons_self

theorem Untitled.settled (h : Untitled text) : Settled text := by
  obtain ⟨first, rest, hcontent, hblock⟩ := h
  refine ⟨first, rest, hcontent, ?_⟩
  intro hmark
  obtain ⟨header, closing, behind, rfl, -, hcloses⟩ := hblock hmark
  exact ⟨closing, List.mem_append_right _ List.mem_cons_self, .inr hcloses⟩

/-- Lines without the key of the title, and one that closes the block, say no title. -/
theorem titleIn_closed {header : List (List Char)} (hheader : ∀ line ∈ header, ¬HasTitleKey line)
    {closing : List Char} (hcloses : IsMark "---" closing ∨ IsMark "..." closing)
    (behind : List (List Char)) : titleIn (header ++ closing :: behind) = none := by
  induction header with
  | nil => exact titleIn_closing ((closesBlock_iff closing).2 hcloses) behind
  | cons line header ih =>
    have hrest := ih fun l hl => hheader l (List.mem_cons_of_mem _ hl)
    by_cases hother : IsOther line
    · rw [List.cons_append, titleIn_other hother, hrest]
    · -- without the key it can only be a mark, and closes the block itself
      have hmark : closesBlock line = true := by
        rw [closesBlock_iff]
        rcases decides_iff.2 hother with hkey | hmark
        · exact absurd hkey (hheader line List.mem_cons_self)
        · exact hmark
      exact titleIn_closing hmark _

theorem Untitled.title_eq (h : Untitled text) : title text = none := by
  obtain ⟨first, rest, hcontent, hblock⟩ := h
  rw [title, titleOf_content hcontent, Option.map_eq_none_iff]
  by_cases hopens : opensBlock first = true
  · obtain ⟨header, closing, behind, rfl, hheader, hcloses⟩ :=
      hblock ((opensBlock_iff first).1 hopens)
    rw [if_pos hopens]
    exact titleIn_closed hheader hcloses behind
  · exact if_neg hopens

end RenderDesk.Document

namespace RenderDesk.Terminal

open RenderDesk.Document

/-! ## §4. At a desk. -/

theorem textAfter_appended (read : Reader) (text : String) (typed : List String) :
    textAfter read text (typed.map .append) = typed.foldl appendLine text := by
  rw [textAfter, List.foldl_map]
  rfl

/-- What typing lines at a desk leaves of the title. -/
structure TitleKept (read : Reader) (d : Desk) (typed : List String) : Prop where
  /-- A title that is settled, or the lack of one, stays. -/
  same : Settled d.text → title (d.through read (typed.map .append)).text = title d.text
  /-- A title that was found stays. -/
  found : ∀ name, title d.text = some name →
    title (d.through read (typed.map .append)).text = some name
  /-- No title is found behind a block without one, or without a block. -/
  late : Untitled d.text → title (d.through read (typed.map .append)).text = none

/-- **Typing does not change a settled title**, whatever is typed. -/
theorem title_kept (read : Reader) (d : Desk) (typed : List String) : TitleKept read d typed := by
  have htext : (d.through read (typed.map .append)).text = typed.foldl appendLine d.text := by
    rw [through_text, textAfter_appended]
  have hsame : Settled d.text →
      title (d.through read (typed.map .append)).text = title d.text := by
    intro hsettled
    rw [htext]
    exact title_appended hsettled typed
  refine ⟨hsame, ?_, ?_⟩
  · intro name hname
    exact (hsame (settled_of_title hname)).trans hname
  · intro hnone
    exact (hsame hnone.settled).trans hnone.title_eq

/-- A desk with a title on a last line that has a carriage return and no line feed. -/
def unendedDesk : Desk where
  session := { document := { text := "\n---\ntitle: a\r" } }

theorem unended_title_kept :
    title unendedDesk.text = some "a"
      ∧ title (unendedDesk.through (fun _ => .ok "")
          (["title: b", "---", "title: c"].map .append)).text = some "a" := by
  have hfound : title unendedDesk.text = some "a" := by decide +kernel
  have hkept := title_kept (fun _ => .ok "") unendedDesk ["title: b", "---", "title: c"]
  exact ⟨hfound, hkept.found "a" hfound⟩

end RenderDesk.Terminal
