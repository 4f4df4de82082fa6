/-
  RenderDesk.Proofs.Metadata
  ──────────────────────────
  What the metadata block says, and when the title in it is blank.

  A title is read off the first line with its key that stands behind the
  opening line with no closing line between them.  The value of that line is
  trimmed, and then freed from one pair of quotes.  What was trimmed does not
  start in white space, so that without quotes a title is seen or there is
  none; but what stands in quotes is taken as it is, and white space there
  becomes a title of nothing else.

  Main statements:
    * `titleValue?_eq_some_iff` — the lines that say a title, and which;
    * `titleIn_eq_some_iff`, `titleOf_eq_some_iff` — which of them is read;
    * `blank_unquoted_iff` — which values are blank without their quotes;
    * `title_seen_iff` — the texts whose title, if there is one, can be seen;
    * `not_every_title_seen` — there is one whose title cannot.
-/
import RenderDesk.Proofs.Headings

namespace RenderDesk.Document

open RenderDesk.Text

/-! ## §1. The line of the title. -/

section TitleLine

variable {line value front back : List Char}

/-- A line with the key of the title says what is behind the colon, without the
white space and the quotes around it. -/
theorem titleValue?_keyed (hfront : allBlank front = true) (hback : allBlank back = true)
    (behind : List Char) :
    titleValue? (front ++ "title".toList ++ back ++ ':' :: behind)
      = some (unquote (trim behind)) := by
  have htrimEnd : trimEnd (front ++ "title".toList ++ back ++ ':' :: behind)
      = front ++ "title".toList ++ back ++ ':' :: trimEnd behind :=
    dropEndWhile_stop (by decide) _ behind
  have hblank : ∀ cs : List Char, allBlank cs = true → cs.all (· != ':') = true := by
    intro cs hcs
    rw [List.all_eq_true]
    intro c hc
    rw [bne_iff_ne]
    rintro rfl
    exact absurd (List.all_eq_true.1 hcs _ hc) (by decide)
  have hplain : (front ++ "title".toList ++ back).all (· != ':') = true := by
    rw [List.all_append, List.all_append, hblank front hfront, hblank back hback]
    decide
  have hcut : cutAt ':' (front ++ "title".toList ++ back ++ ':' :: trimEnd behind)
      = some (front ++ "title".toList ++ back, trimEnd behind) := by
    refine cut_eq_some_iff.2 ⟨':', by decide, rfl, ?_⟩
    intro c hc
    simpa using List.all_eq_true.1 hplain c hc
  have htitle : Bare isBlank "title".toList :=
    bare_of_ends (by decide : _ = some 't') (by decide) (by decide : _ = some 'e') (by decide)
  have hkey : trim (front ++ "title".toList ++ back) = "title".toList :=
    trimBoth_around hfront htitle hback
  have hvalue : trim (trimEnd behind) = trim behind := by
    obtain ⟨trailing, hbehind, hblank⟩ := dropEndWhile_parts isBlank behind
    conv_rhs => rw [hbehind]
    exact (trimBoth_append_of_all hblank _).symm
  rw [titleValue?, htrimEnd, hcut]
  show (if (trim (front ++ "title".toList ++ back) == "title".toList) = true
    then some (unquote (trim (trimEnd behind))) else none) = _
  rw [hkey, hvalue]
  exact if_pos (by decide)

/-- **The lines that say a title**, and which one. -/
theorem titleValue?_eq_some_iff : titleValue? line = some value
    ↔ ∃ front back behind, allBlank front = true ∧ allBlank back = true
      ∧ line = front ++ "title".toList ++ back ++ ':' :: behind ∧ unquote (trim behind) = value := by
  constructor
  · intro h
    obtain ⟨front, back, behind, hfront, hback, rfl⟩ := hasTitleKey_of_titleValue? h
    rw [titleValue?_keyed hfront hback] at h
    exact ⟨front, back, behind, hfront, hback, rfl, Option.some.inj h⟩
  · rintro ⟨front, back, behind, hfront, hback, rfl, rfl⟩
    exact titleValue?_keyed hfront hback behind

theorem titleValue?_eq_none_iff : titleValue? line = none ↔ ¬HasTitleKey line := by
  constructor
  · rintro hnone ⟨front, back, behind, hfront, hback, rfl⟩
    rw [titleValue?_keyed hfront hback] at hnone
    cases hnone
  · intro hother
    rw [Option.eq_none_iff_forall_ne_some]
    intro value hvalue
    exact hother (hasTitleKey_of_titleValue? hvalue)

/-- A line with a key is no mark. -/
theorem HasTitleKey.stays (h : HasTitleKey line) : closesBlock line = false := by
  obtain ⟨front, back, behind, -, -, rfl⟩ := h
  have hcolon : ':' ∈ front ++ "title".toList ++ back ++ ':' :: behind :=
    List.mem_append_right _ List.mem_cons_self
  have hunmarked : ∀ mark : String, ':' ∉ mark.toList →
      ¬IsMark mark (front ++ "title".toList ++ back ++ ':' :: behind) := by
    rintro mark hmark ⟨trailing, hblank, hline⟩
    rw [hline, List.mem_append] at hcolon
    rcases hcolon with hcolon | hcolon
    · exact hmark hcolon
    · exact absurd (List.all_eq_true.1 hblank _ hcolon) (by decide)
  rw [← Bool.not_eq_true, closesBlock_iff]
  exact not_or.2 ⟨hunmarked "---" (by decide), hunmarked "..." (by decide)⟩

end TitleLine

/-! ## §2. The line that is read. -/

/-- A line of the block that neither closes it nor says a title. -/
def IsOther (line : List Char) : Prop :=
  ¬IsMark "---" line ∧ ¬IsMark "..." line ∧ ¬HasTitleKey line

theorem isOther_iff {line : List Char} :
    IsOther line ↔ closesBlock line = false ∧ titleValue? line = none := by
  rw [titleValue?_eq_none_iff, ← Bool.not_eq_true, closesBlock_iff, not_or, and_assoc, IsOther]

theorem titleIn_other {line : List Char} (h : IsOther line) (rest : List (List Char)) :
    titleIn (line :: rest) = titleIn rest := by
  obtain ⟨hopen, hnone⟩ := isOther_iff.1 h
  rw [titleIn, hopen, hnone]
  rfl

/-- **The title of a block** is said by its first line with the key, unless the
value of that is empty. -/
theorem titleIn_eq_some_iff {ls : List (List Char)} {value : List Char} : titleIn ls = some value
    ↔ ∃ header line rest, ls = header ++ line :: rest ∧ (∀ other ∈ header, IsOther other)
      ∧ titleValue? line = some value ∧ value ≠ [] := by
  constructor
  · intro h
    induction ls with
    | nil => cases h
    | cons line rest ih =>
      cases hclose : closesBlock line with
      | true =>
        rw [titleIn_closing hclose] at h
        cases h
      | false =>
        cases hvalue : titleValue? line with
        | none =>
          -- the line is passed over, and stands in the header
          have hother : IsOther line := isOther_iff.2 ⟨hclose, hvalue⟩
          rw [titleIn_other hother] at h
          obtain ⟨header, said, behind, rfl, hheader, hsaid⟩ := ih h
          refine ⟨line :: header, said, behind, rfl, ?_, hsaid⟩
          intro other hmem
          rcases List.mem_cons.1 hmem with rfl | hmem
          · exact hother
          · exact hheader other hmem
        | some said =>
          have hne : said ≠ [] := by
            rintro rfl
            rw [titleIn, hclose, hvalue] at h
            cases h
          rw [titleIn_title hclose hvalue hne] at h
          obtain rfl := Option.some.inj h
          exact ⟨[], line, rest, rfl, by simp, hvalue, hne⟩
  · rintro ⟨header, line, rest, rfl, hheader, hvalue, hne⟩
    induction header with
    | nil => exact titleIn_title (hasTitleKey_of_titleValue? hvalue).stays hvalue hne rest
    | cons other header ih =>
      rw [List.cons_append, titleIn_other (hheader other List.mem_cons_self)]
      exact ih fun l hl => hheader l (List.mem_cons_of_mem _ hl)

theorem titleOf_content {cs opening : List Char} {ls : List (List Char)}
    (h : contentLines cs = opening :: ls) :
    titleOf cs = if opensBlock opening then titleIn ls else none := by
  rw [titleOf, h]

theorem titleOf_eq_some_iff {cs value : List Char} : titleOf cs = some value
    ↔ ∃ opening ls, contentLines cs = opening :: ls ∧ IsMark "---" opening
      ∧ titleIn ls = some value := by
  constructor
  · intro h
    cases hcontent : contentLines cs with
    | nil =>
      rw [titleOf, hcontent] at h
      cases h
    | cons opening ls =>
      rw [titleOf_content hcontent] at h
      by_cases hopens : opensBlock opening = true
      · rw [if_pos hopens] at h
        exact ⟨opening, ls, rfl, (opensBlock_iff opening).1 hopens, h⟩
      · rw [if_neg hopens] at h
        cases h
  · rintro ⟨opening, ls, hcontent, hopening, hin⟩
    rw [titleOf_content hcontent, if_pos ((opensBlock_iff opening).2 hopening), hin]

theorem title_eq_some_iff {text name : String} :
    title text = some name ↔ titleOf text.toList = some name.toList := by
  rw [title, Option.map_eq_some_iff]
  constructor
  · rintro ⟨value, hvalue, rfl⟩
    rwa [String.toList_ofList]
  · intro h
    exact ⟨name.toList, h, String.ofList_toList⟩

/-! ## §3. Blank titles. -/

/-- Quotes with nothing but white space between them, and not without any. -/
def BlankInQuotes (value : List Char) : Prop :=
  ∃ quote inner, (quote = '"' ∨ quote = '\'') ∧ inner ≠ [] ∧ allBlank inner = true
    ∧ value = quote :: inner ++ [quote]

/-- A line that says a title of white space in quotes. -/
def SaysBlank (line : List Char) : Prop :=
  ∃ front back before quoted after, allBlank front = true ∧ allBlank back = true
    ∧ allBlank before = true ∧ BlankInQuotes quoted ∧ allBlank after = true
    ∧ line = front ++ "title".toList ++ back ++ ':' :: (before ++ quoted ++ after)

theorem unquote_wrapped {quote : Char} (h : quote = '"' ∨ quote = '\'') (inner : List Char) :
    unquote (quote :: inner ++ [quote]) = inner := by
  rcases h with rfl | rfl
  · have hfit : Quotes.double.Fit inner := nofun
    exact Quotes.unquote_around hfit
  · have hfit : Quotes.single.Fit inner := nofun
    exact Quotes.unquote_around hfit

theorem not_blank_of_bare {value : List Char} (h : Bare isBlank value) (hne : value ≠ []) :
    allBlank value ≠ true := by
  obtain ⟨c, cs, rfl⟩ := List.exists_cons_of_ne_nil hne
  have hc : isBlank c = false := h.start c rfl
  simp [allBlank, hc]

/-- **The values that are blank without their quotes**, among those that were
trimmed. -/
theorem blank_unquoted_iff {value : List Char} (h : Bare isBlank value) :
    unquote value ≠ [] ∧ allBlank (unquote value) = true ↔ BlankInQuotes value := by
  constructor
  · rintro ⟨hne, hblank⟩
    by_cases hwrapped : Wrapped value
    · obtain ⟨quote, inner, hquote, rfl⟩ := hwrapped
      rw [unquote_wrapped hquote] at hne hblank
      exact ⟨quote, inner, hquote, hne, hblank, rfl⟩
    · -- without quotes the value is as it was trimmed, and starts with what is seen
      have hfit : Quotes.bare.Fit value := fun _ => ⟨h, hwrapped⟩
      have hsame : unquote value = value := Quotes.unquote_around hfit
      rw [hsame] at hne hblank
      exact absurd hblank (not_blank_of_bare h hne)
  · rintro ⟨quote, inner, hquote, hne, hblank, rfl⟩
    rw [unquote_wrapped hquote]
    exact ⟨hne, hblank⟩

theorem BlankInQuotes.bare {value : List Char} (h : BlankInQuotes value) : Bare isBlank value := by
  obtain ⟨quote, inner, hquote, -, -, rfl⟩ := h
  apply wrapped_bare
  rcases hquote with rfl | rfl <;> decide

theorem saysBlank_iff {line : List Char} :
    SaysBlank line ↔ ∃ value, titleValue? line = some value ∧ value ≠ [] ∧ allBlank value = true := by
  constructor
  · rintro ⟨front, back, before, quoted, after, hfront, hback, hbefore, hquoted, hafter, rfl⟩
    have hcore : trim (before ++ quoted ++ after) = quoted :=
      trimBoth_around hbefore hquoted.bare hafter
    obtain ⟨hne, hblank⟩ := (blank_unquoted_iff hquoted.bare).2 hquoted
    refine ⟨unquote quoted, ?_, hne, hblank⟩
    rw [titleValue?_keyed hfront hback, hcore]
  · rintro ⟨value, hvalue, hne, hblank⟩
    obtain ⟨front, back, behind, hfront, hback, rfl, rfl⟩ := titleValue?_eq_some_iff.1 hvalue
    obtain ⟨before, after, hbehind, hbefore, hafter⟩ := trimBoth_parts isBlank behind
    have hquoted : BlankInQuotes (trim behind) :=
      (blank_unquoted_iff (trimBoth_bare isBlank behind)).1 ⟨hne, hblank⟩
    refine ⟨front, back, before, trim behind, after, hfront, hback, hbefore, hquoted, hafter, ?_⟩
    conv_lhs => rw [hbehind]
    rfl

/-- **Every title can be seen**, unless the line that is read for it says white
space in quotes. -/
theorem title_seen_iff (text : String) :
    (∀ name, title text = some name → ∃ c ∈ name.toList, isBlank c = false)
      ↔ ¬∃ opening header line rest,
          contentLines text.toList = opening :: (header ++ line :: rest)
            ∧ IsMark "---" opening ∧ (∀ other ∈ header, IsOther other) ∧ SaysBlank line := by
  constructor
  · rintro hseen ⟨opening, header, line, rest, hcontent, hopening, hheader, hsays⟩
    obtain ⟨value, hvalue, hne, hblank⟩ := saysBlank_iff.1 hsays
    have hin : titleIn (header ++ line :: rest) = some value :=
      titleIn_eq_some_iff.2 ⟨header, line, rest, rfl, hheader, hvalue, hne⟩
    have htitle : title text = some (String.ofList value) := by
      rw [title_eq_some_iff, String.toList_ofList]
      exact titleOf_eq_some_iff.2 ⟨opening, _, hcontent, hopening, hin⟩
    obtain ⟨c, hc, hvisible⟩ := hseen _ htitle
    rw [String.toList_ofList] at hc
    exact ne_true_of_eq_false hvisible (List.all_eq_true.1 hblank c hc)
  · intro hnone name htitle
    obtain ⟨opening, ls, hcontent, hopening, hin⟩ :=
      titleOf_eq_some_iff.1 (title_eq_some_iff.1 htitle)
    obtain ⟨header, line, rest, rfl, hheader, hvalue, hne⟩ := titleIn_eq_some_iff.1 hin
    by_contra hunseen
    have hblank : allBlank name.toList = true := by
      rw [allBlank, List.all_eq_true]
      intro c hc
      by_contra hvisible
      exact hunseen ⟨c, hc, eq_false_of_ne_true hvisible⟩
    exact hnone ⟨opening, header, line, rest, hcontent, hopening, hheader,
      saysBlank_iff.2 ⟨name.toList, hvalue, hne, hblank⟩⟩

/-- White space in quotes is taken for a title. -/
theorem not_every_title_seen :
    ¬∀ text name, title text = some name → ∃ c ∈ name.toList, isBlank c = false := by
  intro hseen
  have htitle : title "---\ntitle: \"  \"\n---\n" = some "  " := by decide +kernel
  obtain ⟨c, hc, hvisible⟩ := hseen _ _ htitle
  have hblank : allBlank "  ".toList = true := by decide
  exact ne_true_of_eq_false hvisible (List.all_eq_true.1 hblank c hc)

end RenderDesk.Document
