/-
  RenderDesk.Proofs.Headings
  ──────────────────────────
  A title that is written in the metadata block is read back.

  A heading is written as marks, blank lines, the line that opens the block,
  lines of other keys, and the line of the title, bare or in quotes; behind it
  any text may follow.  Lines end in either way.  The reader looks at a line
  without the white space at its end, so that it does not matter whether a
  carriage return there belongs to the line or to its end: what the reader asks
  of a line as it is read (`Row`) is the same as of the line as it was written.

  Main statements:
    * `lines_line` — a written line is read as a row of itself;
    * `Row.opensBlock_eq`, `Row.closesBlock_eq`, `Row.titleValue?_eq` — a row
      says what its line says;
    * `titleIn_header` — lines of other keys are passed over;
    * `titleValue?_written` — the line of the title says the title;
    * `title_read` — every heading is read back, and `quotedHeading` is one.
-/
import RenderDesk.Document.Title
import RenderDesk.Proofs.Trimming

namespace RenderDesk.Document

open RenderDesk.Text

/-! ## §1. Headings, as they are written. -/

/-- The two ends of a line. -/
inductive LineEnd where
  | feed
  | returnFeed
  deriving Repr, DecidableEq

def LineEnd.chars : LineEnd → List Char
  | .feed => ['\n']
  | .returnFeed => ['\r', '\n']

/-- A line and its end. -/
structure Line where
  text : List Char
  ending : LineEnd
  single : '\n' ∉ text

def Line.chars (line : Line) : List Char := line.text ++ line.ending.chars

/-- Lines one behind another. -/
def written (ls : List Line) : List Char := ls.flatMap Line.chars

/-- A line with nothing but a mark, and white space behind it. -/
def IsMark (mark : String) (line : List Char) : Prop :=
  ∃ trailing, allBlank trailing = true ∧ line = mark.toList ++ trailing

/-- A line whose key is that of the title. -/
def HasTitleKey (line : List Char) : Prop :=
  ∃ front back value, allBlank front = true ∧ allBlank back = true
    ∧ line = front ++ "title".toList ++ back ++ ':' :: value

/-- How a title is written. -/
inductive Quotes where
  | double
  | single
  | bare
  deriving Repr, DecidableEq

def Quotes.around : Quotes → List Char → List Char
  | .double, value => '"' :: value ++ ['"']
  | .single, value => '\'' :: value ++ ['\'']
  | .bare, value => value

/-- A text between two equal quotes. -/
def Wrapped (value : List Char) : Prop :=
  ∃ quote inner, (quote = '"' ∨ quote = '\'') ∧ value = quote :: inner ++ [quote]

/-- Without quotes, a title neither starts nor ends in white space, and has no
quotes of its own around it. -/
def Quotes.Fit (quotes : Quotes) (value : List Char) : Prop :=
  quotes = .bare → Bare isBlank value ∧ ¬Wrapped value

/-- A text that begins with a metadata block, up to the title in it and with
what follows. -/
structure Heading where
  marks : Nat
  blanks : List Line
  opening : Line
  header : List Line
  quotes : Quotes
  value : List Char
  ending : LineEnd
  rest : List Char
  blank : ∀ line ∈ blanks, allBlank line.text = true
  opens : IsMark "---" opening.text
  stays : ∀ line ∈ header, ¬IsMark "---" line.text ∧ ¬IsMark "..." line.text
  other : ∀ line ∈ header, ¬HasTitleKey line.text
  single : '\n' ∉ value
  visible : ∃ c ∈ value, isBlank c = false
  fit : quotes.Fit value

theorem Quotes.around_single {value : List Char} (h : '\n' ∉ value) (quotes : Quotes) :
    '\n' ∉ quotes.around value := by
  cases quotes <;> simp [Quotes.around, h]

def Heading.titleLine (h : Heading) : Line where
  text := "title: ".toList ++ h.quotes.around h.value
  ending := h.ending
  single := by
    have haround := Quotes.around_single h.single h.quotes
    simp [haround]

/-- The text of a heading and of what follows it. -/
def Heading.text (h : Heading) : String :=
  String.ofList (List.replicate h.marks byteOrderMark
    ++ written (h.blanks ++ [h.opening] ++ h.header ++ [h.titleLine]) ++ h.rest)

/-! ## §2. Written lines, as they are read. -/

/-- A line as it is read: a carriage return at its end may have gone to the end
of the line. -/
def Row (line row : List Char) : Prop := row = line ∨ line = row ++ ['\r']

/-- **A written line is read as a row of itself.** -/
theorem lines_line (line : Line) (cs : List Char) :
    ∃ row, Row line.text row ∧ lines (line.chars ++ cs) = row :: lines cs := by
  obtain ⟨text, ending, hsingle⟩ := line
  cases ending with
  | returnFeed =>
    refine ⟨text, .inl rfl, ?_⟩
    rw [← lines_return hsingle cs]
    simp [Line.chars, LineEnd.chars]
  | feed =>
    have hchars : Line.chars ⟨text, .feed, hsingle⟩ ++ cs = text ++ '\n' :: cs := by
      simp [Line.chars, LineEnd.chars]
    by_cases hreturn : text.getLast? = some '\r'
    · -- the line's own carriage return is read as part of its end
      obtain ⟨row, rfl⟩ := List.getLast?_eq_some_iff.1 hreturn
      have hrow : '\n' ∉ row := fun hmem => hsingle (List.mem_append_left _ hmem)
      refine ⟨row, .inr rfl, ?_⟩
      rw [hchars, ← lines_return hrow cs]
      simp
    · exact ⟨text, .inl rfl, by rw [hchars, lines_row hsingle hreturn]⟩

section Rows

variable {line row : List Char}

theorem Row.trimEnd_eq (h : Row line row) : trimEnd row = trimEnd line := by
  rcases h with rfl | rfl
  · rfl
  · exact (trimEnd_append_of_blank (by decide) row).symm

theorem Row.allBlank_eq (h : Row line row) : allBlank row = allBlank line := by
  rcases h with rfl | rfl
  · rfl
  · have hreturn : isBlank '\r' = true := by decide
    simp [allBlank, hreturn]

theorem Row.opensBlock_eq (h : Row line row) : opensBlock row = opensBlock line := by
  rw [opensBlock, h.trimEnd_eq, opensBlock]

theorem Row.closesBlock_eq (h : Row line row) : closesBlock row = closesBlock line := by
  rw [closesBlock, h.trimEnd_eq, closesBlock]

theorem Row.titleValue?_eq (h : Row line row) : titleValue? row = titleValue? line := by
  rw [titleValue?, h.trimEnd_eq, titleValue?]

end Rows

/-! ## §3. The lines of the block. -/

/-- A text whose last character is seen is a mark if it is what is left of a
line without the white space at its end. -/
theorem trimEnd_eq_iff {mark : String} {last : Char} (hlast : mark.toList.getLast? = some last)
    (hseen : isBlank last = false) (line : List Char) :
    trimEnd line = mark.toList ↔ IsMark mark line := by
  constructor
  · intro htrim
    obtain ⟨trailing, hline, hblank⟩ := dropEndWhile_parts isBlank line
    exact ⟨trailing, hblank, htrim ▸ hline⟩
  · rintro ⟨trailing, hblank, rfl⟩
    rw [trimEnd_append_of_blank hblank]
    apply dropEndWhile_of_finish
    intro c hc
    rw [hlast] at hc
    exact Option.some.inj hc ▸ hseen

theorem trimEnd_dashes_iff (line : List Char) : trimEnd line = "---".toList ↔ IsMark "---" line :=
  trimEnd_eq_iff (by decide) (by decide : isBlank '-' = false) line

theorem trimEnd_dots_iff (line : List Char) : trimEnd line = "...".toList ↔ IsMark "..." line :=
  trimEnd_eq_iff (by decide) (by decide : isBlank '.' = false) line

theorem opensBlock_iff (line : List Char) : opensBlock line = true ↔ IsMark "---" line := by
  rw [opensBlock, beq_iff_eq]
  exact trimEnd_dashes_iff line

theorem closesBlock_iff (line : List Char) :
    closesBlock line = true ↔ IsMark "---" line ∨ IsMark "..." line := by
  rw [closesBlock, Bool.or_eq_true, beq_iff_eq, beq_iff_eq]
  exact or_congr (trimEnd_dashes_iff line) (trimEnd_dots_iff line)

/-- Only a line whose key is that of the title says one. -/
theorem hasTitleKey_of_titleValue? {line value : List Char} (h : titleValue? line = some value) :
    HasTitleKey line := by
  obtain ⟨trailing, hline, -⟩ := dropEndWhile_parts isBlank line
  unfold titleValue? at h
  cases hcut : cutAt ':' (trimEnd line) with
  | none =>
    rw [hcut] at h
    cases h
  | some found =>
    obtain ⟨key, behind⟩ := found
    rw [hcut] at h
    obtain ⟨colon, hcolon, hparts, -⟩ := cut_eq_some_iff.1 hcut
    obtain rfl : colon = ':' := eq_of_beq hcolon
    obtain ⟨front, back, hkey, hfront, hback⟩ := trimBoth_parts isBlank key
    obtain ⟨htitle, -⟩ : trim key = "title".toList ∧ unquote (trim behind) = value := by
      simpa using h
    rw [trim] at htitle
    rw [htitle] at hkey
    refine ⟨front, back, behind ++ trailing, hfront, hback, ?_⟩
    rw [hline]
    show trimEnd line ++ trailing = _
    rw [hparts, hkey]
    simp

theorem titleIn_header {header : List Line}
    (hstays : ∀ line ∈ header, ¬IsMark "---" line.text ∧ ¬IsMark "..." line.text)
    (hother : ∀ line ∈ header, ¬HasTitleKey line.text) (cs : List Char) :
    titleIn (lines (written header ++ cs)) = titleIn (lines cs) := by
  induction header with
  | nil => rfl
  | cons line header ih =>
    have hrest := ih (fun l hl => hstays l (List.mem_cons_of_mem _ hl))
      (fun l hl => hother l (List.mem_cons_of_mem _ hl))
    obtain ⟨row, hrow, hlines⟩ := lines_line line (written header ++ cs)
    have hopen : closesBlock row = false := by
      rw [hrow.closesBlock_eq, ← Bool.not_eq_true, closesBlock_iff]
      exact not_or.2 (hstays line List.mem_cons_self)
    have hnone : titleValue? row = none := by
      rw [hrow.titleValue?_eq, Option.eq_none_iff_forall_ne_some]
      intro value hvalue
      exact hother line List.mem_cons_self (hasTitleKey_of_titleValue? hvalue)
    have hwhole : written (line :: header) ++ cs = line.chars ++ (written header ++ cs) := by
      simp [written]
    rw [hwhole, hlines, titleIn, hopen, hnone]
    exact hrest

/-! ## §4. The line of the title. -/

section TitleLine

variable {quotes : Quotes} {value : List Char}

theorem wrapped_bare {quote : Char} (h : isBlank quote = false) (inner : List Char) :
    Bare isBlank (quote :: inner ++ [quote]) :=
  bare_of_ends rfl h List.getLast?_concat h

theorem Quotes.around_bare (h : quotes.Fit value) : Bare isBlank (quotes.around value) := by
  cases quotes with
  | double => exact wrapped_bare (by decide) value
  | single => exact wrapped_bare (by decide) value
  | bare => exact (h rfl).1

theorem Quotes.around_ne_nil (h : value ≠ []) : quotes.around value ≠ [] := by
  cases quotes with
  | double => exact List.cons_ne_nil _ _
  | single => exact List.cons_ne_nil _ _
  | bare => exact h

/-- What is written in quotes or without is found in them, or without. -/
theorem Quotes.unquote_around (h : quotes.Fit value) : unquote (quotes.around value) = value := by
  cases quotes with
  | double => simp [Quotes.around, unquote]
  | single => simp [Quotes.around, unquote]
  | bare =>
    show unquote value = value
    cases value with
    | nil => rfl
    | cons quote behind =>
      unfold unquote
      apply if_neg
      intro hquotes
      -- quotes that would be taken off are around the title itself
      obtain ⟨hquote, hlast⟩ : (quote.toNat = 0x22 ∨ quote.toNat = 0x27)
          ∧ behind.getLast? = some quote := by simpa using hquotes
      obtain ⟨inner, rfl⟩ := List.getLast?_eq_some_iff.1 hlast
      have hkind : quote = '"' ∨ quote = '\'' := by
        apply hquote.imp
        · exact fun hcode => Char.toNat_inj.1 hcode
        · exact fun hcode => Char.toNat_inj.1 hcode
      exact (h rfl).2 ⟨quote, inner, hkind, rfl⟩

/-- **The line of the title says the title.** -/
theorem titleValue?_written (h : quotes.Fit value) (hvalue : value ≠ []) :
    titleValue? ("title: ".toList ++ quotes.around value) = some value := by
  have hbare := Quotes.around_bare h
  have htrimEnd : trimEnd ("title: ".toList ++ quotes.around value)
      = "title: ".toList ++ quotes.around value := by
    apply dropEndWhile_of_finish
    intro c hc
    rw [List.getLast?_append_of_ne_nil _ (Quotes.around_ne_nil hvalue)] at hc
    exact hbare.finish c hc
  have hcut : cutAt ':' ("title: ".toList ++ quotes.around value)
      = some ("title".toList, ' ' :: quotes.around value) :=
    cut_eq_some_iff.2 ⟨':', by decide, rfl, by simp⟩
  have htrim : trim (' ' :: quotes.around value) = quotes.around value := by
    have hcore : trim ([' '] ++ quotes.around value ++ []) = quotes.around value :=
      trimBoth_around rfl hbare rfl
    simpa using hcore
  have hkey : (trim "title".toList == "title".toList) = true := by decide
  rw [titleValue?, htrimEnd, hcut]
  show (if (trim "title".toList == "title".toList) = true
    then some (unquote (trim (' ' :: quotes.around value))) else none) = some value
  rw [if_pos hkey, htrim, Quotes.unquote_around h]

theorem closesBlock_written (quotes : Quotes) (value : List Char) :
    closesBlock ("title: ".toList ++ quotes.around value) = false := by
  rw [← Bool.not_eq_true, closesBlock_iff]
  rintro (⟨trailing, -, hmark⟩ | ⟨trailing, -, hmark⟩)
  · injection hmark with hhead
    exact absurd hhead (by decide)
  · injection hmark with hhead
    exact absurd hhead (by decide)

end TitleLine

/-! ## §5. In front of the block. -/

theorem Line.blank_chars {line : Line} (h : allBlank line.text = true) :
    allBlank line.chars = true := by
  rw [allBlank] at h
  rw [Line.chars, allBlank, List.all_append, h, Bool.true_and]
  cases line.ending <;> decide

theorem written_blank {ls : List Line} (h : ∀ line ∈ ls, allBlank line.text = true) :
    allBlank (written ls) = true := by
  rw [allBlank, written, List.all_flatMap, List.all_eq_true]
  intro line hline
  exact Line.blank_chars (h line hline)

/-- The marks in front of a text are dropped, and no more. -/
theorem dropWhile_marks (marks : Nat) {front : List Char} (h : allBlank front = true)
    {c : Char} (hc : c ≠ byteOrderMark) (behind : List Char) :
    (List.replicate marks byteOrderMark ++ (front ++ c :: behind)).dropWhile (· == byteOrderMark)
      = front ++ c :: behind := by
  have hmarks : (List.replicate marks byteOrderMark).all (· == byteOrderMark) = true := by
    rw [List.all_replicate]
    simp
  rw [dropWhile_append_of_all hmarks]
  cases front with
  | nil => exact List.dropWhile_cons_of_neg (by simpa using hc)
  | cons space front =>
    apply List.dropWhile_cons_of_neg
    rw [beq_iff_eq]
    rintro rfl
    -- the mark is no white space
    have hblank := List.all_eq_true.1 h _ List.mem_cons_self
    exact absurd hblank (by decide)

theorem dropWhile_blanks {blanks : List Line}
    (h : ∀ line ∈ blanks, allBlank line.text = true) (cs : List Char) :
    (lines (written blanks ++ cs)).dropWhile allBlank = (lines cs).dropWhile allBlank := by
  induction blanks with
  | nil => rfl
  | cons line blanks ih =>
    have hrest := ih fun l hl => h l (List.mem_cons_of_mem _ hl)
    obtain ⟨row, hrow, hlines⟩ := lines_line line (written blanks ++ cs)
    have hblank : allBlank row = true := by
      rw [hrow.allBlank_eq]
      exact h line List.mem_cons_self
    have hwhole : written (line :: blanks) ++ cs = line.chars ++ (written blanks ++ cs) := by
      simp [written]
    rw [hwhole, hlines, List.dropWhile_cons_of_pos hblank, hrest]

/-- The title is looked for behind the line that opens the block. -/
theorem titleOf_opening (marks : Nat) {blanks : List Line} {opening : Line}
    (hblanks : ∀ line ∈ blanks, allBlank line.text = true) (hopening : IsMark "---" opening.text)
    (cs : List Char) : titleOf (List.replicate marks byteOrderMark
      ++ (written blanks ++ (opening.chars ++ cs))) = titleIn (lines cs) := by
  obtain ⟨row, hrow, hlines⟩ := lines_line opening cs
  have hopens : opensBlock row = true := by
    rw [hrow.opensBlock_eq, opensBlock_iff]
    exact hopening
  obtain ⟨trailing, -, hdashes⟩ := hopening
  have hfirst : opening.chars ++ cs
      = '-' :: ("--".toList ++ trailing ++ opening.ending.chars ++ cs) := by
    rw [Line.chars, hdashes]
    simp
  have hseen : ¬allBlank row = true := by
    rw [hrow.allBlank_eq, hdashes, allBlank, List.all_append]
    simp [show isBlank '-' = false by decide]
  have hcontent : contentLines (List.replicate marks byteOrderMark
      ++ (written blanks ++ (opening.chars ++ cs))) = row :: lines cs := by
    unfold contentLines
    rw [hfirst, dropWhile_marks marks (written_blank hblanks) (by decide), ← hfirst,
      dropWhile_blanks hblanks, hlines, List.dropWhile_cons_of_neg hseen]
  rw [titleOf, hcontent]
  exact if_pos hopens

/-! ## §6. Headings are read back. -/

theorem titleIn_titleLine (h : Heading) (cs : List Char) :
    titleIn (lines (h.titleLine.chars ++ cs)) = some h.value := by
  obtain ⟨row, hrow, hlines⟩ := lines_line h.titleLine cs
  obtain ⟨c, hc, -⟩ := h.visible
  have hvalue : h.value ≠ [] := List.ne_nil_of_mem hc
  have hopen : closesBlock row = false := by
    rw [hrow.closesBlock_eq]
    exact closesBlock_written h.quotes h.value
  have hsays : titleValue? row = some h.value := by
    rw [hrow.titleValue?_eq]
    exact titleValue?_written h.fit hvalue
  rw [hlines, titleIn_title hopen hsays hvalue]

/-- **Every heading is read back**, whatever follows it. -/
theorem title_read (h : Heading) : title h.text = some (String.ofList h.value) := by
  have htext : h.text.toList = List.replicate h.marks byteOrderMark ++ (written h.blanks
      ++ (h.opening.chars ++ (written h.header ++ (h.titleLine.chars ++ h.rest)))) := by
    simp [Heading.text, written]
  have hvalue : titleOf h.text.toList = some h.value := by
    calc titleOf h.text.toList
        = titleIn (lines (written h.header ++ (h.titleLine.chars ++ h.rest))) := by
          rw [htext, titleOf_opening h.marks h.blank h.opens]
      _ = titleIn (lines (h.titleLine.chars ++ h.rest)) := titleIn_header h.stays h.other _
      _ = some h.value := titleIn_titleLine h h.rest
  rw [title, hvalue]
  rfl

/-- A heading with all that may stand in one, and with quotes and a colon in its
title. -/
def quotedHeading : Heading where
  marks := 2
  blanks := [⟨" ".toList, .returnFeed, by decide⟩]
  opening := ⟨"--- ".toList, .feed, by decide⟩
  header := [⟨"draft".toList, .returnFeed, by decide⟩]
  quotes := .double
  value := "On: \"it\"".toList
  ending := .returnFeed
  rest := "---\n".toList
  blank := by decide
  opens := ⟨[' '], by decide, by decide⟩
  stays := by
    intro line hline
    rw [List.mem_singleton.1 hline, ← not_or, ← closesBlock_iff]
    decide
  other := by
    intro line hline
    rw [List.mem_singleton.1 hline]
    rintro ⟨front, back, value, -, -, hparts⟩
    have hcolon : ':' ∈ "draft".toList := by
      rw [show "draft".toList = _ from hparts]
      exact List.mem_append_right _ List.mem_cons_self
    exact absurd hcolon (by decide)
  single := by decide
  visible := ⟨'O', by decide, by decide⟩
  fit := by
    intro h
    cases h

theorem quoted_title_read : title quotedHeading.text = some "On: \"it\"" :=
  title_read quotedHeading

end RenderDesk.Document
