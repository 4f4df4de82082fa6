/-
  RenderDesk.Text.Replace
  ───────────────────────
  Replacing every occurrence of a text in another, from left to right.

  Main statement: `replaced_pieces` — every text is pieces with the pattern
  between them, which is replaced everywhere; the pieces stay.
-/
import RenderDesk.Text.Cut

namespace RenderDesk.Text

/-- Replaces what is found after the first `skip` characters, which belong to
an occurrence that has been replaced. -/
def replaceFrom (pattern new : List Char) : Nat → List Char → List Char
  | _, [] => []
  | skip + 1, _ :: cs => replaceFrom pattern new skip cs
  | 0, c :: cs =>
    if (afterStart pattern (c :: cs)).isSome then
      new ++ replaceFrom pattern new (pattern.length - 1) cs
    else c :: replaceFrom pattern new 0 cs

/-- A text with every occurrence of another, which is not empty, replaced. -/
def replaced (pattern new text : String) : String :=
  String.ofList (replaceFrom pattern.toList new.toList 0 text.toList)

/-! ## Laws. -/

theorem replaceFrom_skip (pattern new xs ys : List Char) :
    replaceFrom pattern new xs.length (xs ++ ys) = replaceFrom pattern new 0 ys := by
  induction xs with
  | nil => rfl
  | cons x xs ih => exact ih

/-- An occurrence at the start is replaced, and the rest is looked through. -/
theorem replaceFrom_found {p : Char} (ps new rest : List Char) :
    replaceFrom (p :: ps) new 0 (p :: ps ++ rest) = new ++ replaceFrom (p :: ps) new 0 rest := by
  have hstart : afterStart (p :: ps) (p :: (ps ++ rest)) = some rest :=
    afterStart_eq_some_iff.2 rfl
  simp [replaceFrom, hstart, replaceFrom_skip]

/-- A piece without an occurrence stays, when it is the whole text or an occurrence
follows it.  As an occurrence begins with a character that does not come again in
it, none begins in the piece and ends behind it. -/
theorem replaceFrom_piece {p : Char} {ps piece rest : List Char} (hp : p ∉ ps)
    (hpiece : ¬p :: ps <:+: piece) (hrest : rest = [] ∨ p :: ps <+: rest) (new : List Char) :
    replaceFrom (p :: ps) new 0 (piece ++ rest)
      = piece ++ replaceFrom (p :: ps) new 0 rest := by
  induction piece with
  | nil => rfl
  | cons c cs ih =>
    have hinner := ih fun hinfix => hpiece (List.infix_cons hinfix)
    have hstart : afterStart (p :: ps) (c :: (cs ++ rest)) = none := by
      rw [Option.eq_none_iff_forall_ne_some]
      intro behind hfound
      have heq : (c :: cs) ++ rest = (p :: ps) ++ behind := afterStart_eq_some_iff.1 hfound
      rcases List.append_eq_append_iff.1 heq with ⟨beyond, hpattern, hbeyond⟩ | ⟨beyond, hinside, _⟩
      · -- the occurrence goes on behind the piece
        rw [List.cons_append, List.cons.injEq] at hpattern
        cases beyond with
        | nil =>
          refine hpiece (List.IsPrefix.isInfix ⟨[], ?_⟩)
          simp [hpattern.1, hpattern.2]
        | cons b beyond =>
          rcases hrest with rfl | ⟨more, rfl⟩
          · cases hbeyond
          · obtain rfl : p = b := (List.cons.inj hbeyond).1
            exact hp (hpattern.2 ▸ List.mem_append_right cs List.mem_cons_self)
      · exact hpiece (List.IsPrefix.isInfix ⟨beyond, hinside.symm⟩)
    simp [replaceFrom, hstart, hinner]

theorem replaceFrom_intercalate {p : Char} {ps : List Char} (hp : p ∉ ps) (new : List Char)
    {pieces : List (List Char)} (hpieces : ∀ piece ∈ pieces, ¬p :: ps <:+: piece) :
    replaceFrom (p :: ps) new 0 ((p :: ps).intercalate pieces) = new.intercalate pieces := by
  induction pieces with
  | nil => rfl
  | cons piece rest ih =>
    have hpiece := hpieces piece List.mem_cons_self
    have hrest := ih fun other hother => hpieces other (List.mem_cons_of_mem _ hother)
    cases rest with
    | nil =>
      have hlast := replaceFrom_piece hp hpiece (.inl rfl) new
      simpa [replaceFrom] using hlast
    | cons next rest =>
      rw [List.intercalate_cons_cons, List.intercalate_cons_cons, List.append_assoc,
        List.append_assoc, replaceFrom_piece hp hpiece (.inr (List.prefix_append _ _)),
        replaceFrom_found, hrest]

/-- Every text is pieces without an occurrence, and occurrences between them. -/
theorem exists_pieces {pattern : List Char} (hpattern : pattern ≠ []) (cs : List Char) :
    ∃ first rest, cs = pattern.intercalate (first :: rest)
      ∧ ∀ piece ∈ first :: rest, ¬pattern <:+: piece := by
  induction h : cs.length using Nat.strongRecOn generalizing cs with
  | ind n ih =>
    by_cases hstart : pattern <+: cs
    · obtain ⟨behind, rfl⟩ := hstart
      have hshorter : behind.length < n := by
        have hpos := List.length_pos_iff.2 hpattern
        rw [List.length_append] at h
        omega
      obtain ⟨first, rest, hbehind, hpieces⟩ := ih _ hshorter behind rfl
      refine ⟨[], first :: rest, by simp [hbehind, List.intercalate_cons_cons], ?_⟩
      intro piece hpiece
      rcases List.mem_cons.1 hpiece with rfl | hpiece
      · simpa using hpattern
      · exact hpieces piece hpiece
    · cases cs with
      | nil =>
        refine ⟨[], [], rfl, ?_⟩
        simpa using hpattern
      | cons c cs =>
        have hshorter : cs.length < n := h ▸ Nat.lt_succ_self _
        obtain ⟨first, rest, hcs, hpieces⟩ := ih _ hshorter cs rfl
        have hfront : c :: cs = pattern.intercalate ((c :: first) :: rest) := by
          rw [hcs]
          cases rest <;> simp [List.intercalate_cons_cons]
        refine ⟨c :: first, rest, hfront, ?_⟩
        intro piece hpiece
        rcases List.mem_cons.1 hpiece with rfl | hpiece
        · -- an occurrence in the longer first piece would be at the start of the text
          intro hinfix
          rcases List.infix_cons_iff.1 hinfix with hbegin | hinside
          · refine hstart (hbegin.trans ?_)
            rw [hfront]
            cases rest <;> simp [List.intercalate_cons_cons]
          · exact hpieces first List.mem_cons_self hinside
        · exact hpieces piece (List.mem_cons_of_mem _ hpiece)

/-- **A text between pieces is replaced everywhere**, and the pieces stay. -/
theorem replaced_intercalate {pattern : String} {p : Char} {ps : List Char}
    (hpattern : pattern.toList = p :: ps) (hp : p ∉ ps) (new : String) {pieces : List String}
    (hpieces : ∀ piece ∈ pieces, ¬pattern.toList <:+: piece.toList) :
    replaced pattern new (pattern.intercalate pieces) = new.intercalate pieces := by
  have hlists : ∀ piece ∈ pieces.map String.toList, ¬p :: ps <:+: piece := by
    simpa [hpattern] using hpieces
  apply String.toList_inj.1
  simp only [replaced, String.toList_ofList, String.toList_intercalate, hpattern]
  exact replaceFrom_intercalate hp new.toList hlists

/-- Every text is cut into pieces, between which alone something is replaced. -/
theorem replaced_pieces {pattern : String} {p : Char} {ps : List Char}
    (hpattern : pattern.toList = p :: ps) (hp : p ∉ ps) (text : String) : ∃ pieces : List String,
      text = pattern.intercalate pieces ∧ (∀ piece ∈ pieces, ¬pattern.toList <:+: piece.toList)
        ∧ ∀ new, replaced pattern new text = new.intercalate pieces := by
  have hne : pattern.toList ≠ [] := by simp [hpattern]
  obtain ⟨first, rest, htext, hlists⟩ := exists_pieces hne text.toList
  have hpieces : ∀ piece ∈ (first :: rest).map String.ofList,
      ¬pattern.toList <:+: piece.toList := by
    simpa using hlists
  have hsplit : text = pattern.intercalate ((first :: rest).map String.ofList) := by
    apply String.toList_inj.1
    rw [String.toList_intercalate, List.map_map, htext]
    congr 1
    simp [Function.comp_def]
  refine ⟨_, hsplit, hpieces, fun new => ?_⟩
  rw [hsplit]
  exact replaced_intercalate hpattern hp new hpieces

end RenderDesk.Text
