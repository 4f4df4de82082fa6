/-
  RenderDesk.Text.Cut
  ───────────────────
  Cutting a text at the first character of a kind, or at every separator.

  Main statements:
    * `cut_eq_some_iff` — the two parts and the separator give back the text,
      and the first part holds no separator;
    * `parts_append` — a part and its separator in front add that part in
      front;
    * `parts_joined` — two texts with a separator between them have the parts
      of both.
-/

namespace RenderDesk.Text

/-- The text before and after the first character satisfying `p`, without
that character; `none` when there is no such character. -/
def cut (p : Char → Bool) : List Char → Option (List Char × List Char)
  | [] => none
  | c :: cs =>
    if p c then some ([], cs)
    else (cut p cs).map fun (before, after) => (c :: before, after)

/-- Cuts at the first occurrence of one character. -/
def cutAt (sep : Char) (cs : List Char) : Option (List Char × List Char) :=
  cut (· == sep) cs

/-- The text after `start`, when the text starts so. -/
def afterStart (start : List Char) (cs : List Char) : Option (List Char) :=
  match start, cs with
  | [], cs => some cs
  | _ :: _, [] => none
  | s :: ss, c :: cs => if s = c then afterStart ss cs else none

/-- The parts of a text between separators, empty ones included. -/
def parts (sep : Char) : List Char → List (List Char)
  | [] => [[]]
  | c :: cs =>
    if c = sep then [] :: parts sep cs
    else
      match parts sep cs with
      | [] => [[c]]
      | part :: rest => (c :: part) :: rest

/-! ## Laws. -/

theorem parts_of_not_mem {sep : Char} {cs : List Char} (h : sep ∉ cs) : parts sep cs = [cs] := by
  induction cs with
  | nil => rfl
  | cons c cs ih =>
    simp only [List.mem_cons, not_or] at h
    simp [parts, Ne.symm h.1, ih h.2]

theorem parts_append {sep : Char} {part : List Char} (h : sep ∉ part) (cs : List Char) :
    parts sep (part ++ sep :: cs) = part :: parts sep cs := by
  induction part with
  | nil => simp [parts]
  | cons c part ih =>
    simp only [List.mem_cons, not_or] at h
    simp [parts, Ne.symm h.1, ih h.2]

theorem parts_ne_nil (sep : Char) (cs : List Char) : parts sep cs ≠ [] := by
  cases cs with
  | nil => simp [parts]
  | cons c cs =>
    unfold parts
    split
    · simp
    · split <;> simp

/-- The parts of two texts with a separator between them. -/
theorem parts_joined (sep : Char) (as bs : List Char) :
    parts sep (as ++ sep :: bs) = parts sep as ++ parts sep bs := by
  induction as with
  | nil => simp [parts]
  | cons c as ih =>
    by_cases hc : c = sep
    · simp [parts, hc, ih]
    · simp only [List.cons_append, parts, if_neg hc, ih]
      cases hparts : parts sep as with
      | nil => exact absurd hparts (parts_ne_nil sep as)
      | cons part rest => rfl

theorem parts_flatMap {sep : Char} {first : List Char} {rest : List (List Char)}
    (hfirst : sep ∉ first) (hrest : ∀ part ∈ rest, sep ∉ part) :
    parts sep (first ++ rest.flatMap (sep :: ·)) = first :: rest := by
  induction rest generalizing first with
  | nil => simp [parts_of_not_mem hfirst]
  | cons next rest ih =>
    have hnext := ih (hrest next List.mem_cons_self)
      fun part hpart => hrest part (List.mem_cons_of_mem _ hpart)
    rw [List.flatMap_cons, List.cons_append, parts_append hfirst, hnext]

theorem not_mem_of_mem_parts {sep : Char} {cs part : List Char} (h : part ∈ parts sep cs) :
    sep ∉ part := by
  induction cs generalizing part with
  | nil =>
    obtain rfl : part = [] := by simpa [parts] using h
    simp
  | cons c cs ih =>
    by_cases hc : c = sep
    · rw [parts, if_pos hc] at h
      rcases List.mem_cons.1 h with rfl | h
      · simp
      · exact ih h
    · rw [parts, if_neg hc] at h
      cases hparts : parts sep cs with
      | nil => exact absurd hparts (parts_ne_nil sep cs)
      | cons first rest =>
        rw [hparts] at h ih
        rcases List.mem_cons.1 h with rfl | h
        · simp [Ne.symm hc, ih List.mem_cons_self]
        · exact ih (List.mem_cons_of_mem _ h)

theorem cut_eq_none_iff {p : Char → Bool} {cs : List Char} :
    cut p cs = none ↔ ∀ c ∈ cs, p c = false := by
  induction cs with
  | nil => simp [cut]
  | cons c cs ih => cases h : p c <;> simp [cut, h, ih]

theorem cut_eq_some_iff {p : Char → Bool} {cs a b : List Char} :
    cut p cs = some (a, b) ↔
      ∃ s, p s = true ∧ cs = a ++ s :: b ∧ ∀ c ∈ a, p c = false := by
  induction cs generalizing a b with
  | nil => simp [cut]
  | cons c cs ih =>
    cases h : p c with
    | true =>
      constructor
      · intro hc
        simp only [cut, h, if_true, Option.some.injEq, Prod.mk.injEq] at hc
        obtain ⟨rfl, rfl⟩ := hc
        exact ⟨c, h, rfl, by simp⟩
      · rintro ⟨s, _, heq, ha⟩
        cases a with
        | nil => simp_all [cut]
        | cons x a =>
          simp only [List.cons_append, List.cons.injEq] at heq
          have := ha x (by simp)
          rw [← heq.1, h] at this
          cases this
    | false =>
      constructor
      · intro hc
        simp only [cut, h] at hc
        cases hcut : cut p cs with
        | none => simp [hcut] at hc
        | some q =>
          obtain ⟨u, v⟩ := q
          simp only [hcut, Option.map_some, Bool.false_eq_true, if_false,
            Option.some.injEq, Prod.mk.injEq] at hc
          obtain ⟨rfl, rfl⟩ := hc
          obtain ⟨s, hs, hcs, hu⟩ := ih.1 hcut
          exact ⟨s, hs, by simp [hcs], by simpa [h] using hu⟩
      · rintro ⟨s, hs, heq, ha⟩
        cases a with
        | nil =>
          simp only [List.nil_append, List.cons.injEq] at heq
          rw [heq.1, hs] at h
          cases h
        | cons x a =>
          simp only [List.cons_append, List.cons.injEq] at heq
          obtain ⟨rfl, hcs⟩ := heq
          have hcut := ih.2 ⟨s, hs, hcs, fun d hd => ha d (by simp [hd])⟩
          simp [cut, h, hcut]

theorem afterStart_eq_some_iff {start cs rest : List Char} :
    afterStart start cs = some rest ↔ cs = start ++ rest := by
  induction start generalizing cs with
  | nil => simp [afterStart]
  | cons s ss ih =>
    cases cs with
    | nil => simp [afterStart]
    | cons c cs =>
      by_cases h : s = c
      · simp [afterStart, h, ih]
      · simp [afterStart, h, Ne.symm h]

end RenderDesk.Text
