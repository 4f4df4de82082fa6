/-
  RenderDesk.Proofs.Trimming
  ──────────────────────────
  Trimming finds the one core of a text.

  A text is what is trimmed off at its start, a core, and what is trimmed off
  at its end.  The core neither starts nor ends with a character to be trimmed,
  and no other division of the text has such a core.

  Main statements:
    * `trimBoth_parts`, `trimBoth_bare` — trimming divides a text so;
    * `trimBoth_around` — however a text is divided so, trimming finds the core.
-/
import Mathlib.Data.List.DropRight
import RenderDesk.Text.Blank

namespace RenderDesk.Text

/-! ## §1. Bare texts. -/

/-- A text from which nothing is trimmed: neither end is of the given kind. -/
structure Bare (p : Char → Bool) (cs : List Char) : Prop where
  start : ∀ c ∈ cs.head?, p c = false
  finish : ∀ c ∈ cs.getLast?, p c = false

section Trimming

variable {p : Char → Bool} {cs front core back : List Char}

theorem bare_of_forall (h : ∀ c ∈ cs, p c = false) : Bare p cs where
  start c hc := h c (List.mem_of_mem_head? hc)
  finish c hc := h c (List.mem_of_mem_getLast? hc)

theorem bare_of_ends {first last : Char} (hstart : cs.head? = some first) (hfirst : p first = false)
    (hfinish : cs.getLast? = some last) (hlast : p last = false) : Bare p cs where
  start := by
    intro c hc
    rw [hstart] at hc
    exact Option.some.inj hc ▸ hfirst
  finish := by
    intro c hc
    rw [hfinish] at hc
    exact Option.some.inj hc ▸ hlast

theorem dropWhile_of_bare (h : Bare p cs) : cs.dropWhile p = cs := by
  cases cs with
  | nil => rfl
  | cons c cs =>
    have hc : p c = false := h.start c rfl
    exact List.dropWhile_cons_of_neg (ne_true_of_eq_false hc)

theorem dropEndWhile_of_finish (h : ∀ c ∈ cs.getLast?, p c = false) :
    dropEndWhile p cs = cs := by
  show cs.rdropWhile p = cs
  rw [List.rdropWhile_eq_self_iff]
  intro hne
  exact ne_true_of_eq_false (h _ (List.getLast_mem_getLast? hne))

theorem dropEndWhile_finish (p : Char → Bool) (cs : List Char) :
    ∀ c ∈ (dropEndWhile p cs).getLast?, p c = false := by
  intro c hc
  obtain ⟨hne, rfl⟩ := List.mem_getLast?_eq_getLast hc
  exact eq_false_of_ne_true (List.rdropWhile_last_not p cs hne)

/-- What is dropped at the end, and what is left. -/
theorem dropEndWhile_parts (p : Char → Bool) (cs : List Char) :
    ∃ back, cs = dropEndWhile p cs ++ back ∧ back.all p = true := by
  refine ⟨cs.rtakeWhile p, ?_, ?_⟩
  · exact List.rdropWhile_append_rtakeWhile.symm
  · rw [List.all_eq_true]
    intro c hc
    exact List.mem_rtakeWhile_imp hc

/-- Nothing is dropped from a character on that stays. -/
theorem dropEndWhile_stop {c : Char} (h : p c = false) (front back : List Char) :
    dropEndWhile p (front ++ c :: back) = front ++ c :: dropEndWhile p back := by
  obtain ⟨dropped, hback, hall⟩ := dropEndWhile_parts p back
  have hwhole : front ++ c :: back = (front ++ c :: dropEndWhile p back) ++ dropped := by
    conv_lhs => rw [hback]
    simp
  rw [hwhole, dropEndWhile_append_of_all hall]
  apply dropEndWhile_of_finish
  intro last hlast
  rw [List.getLast?_append_cons] at hlast
  cases hkept : dropEndWhile p back with
  | nil =>
    rw [hkept, List.getLast?_singleton] at hlast
    exact Option.some.inj hlast ▸ h
  | cons d kept =>
    rw [hkept, List.getLast?_cons_cons, ← hkept] at hlast
    exact dropEndWhile_finish p back last hlast

/-! ## §2. Trimming both ends. -/

/-- **A text is its core and what is trimmed off around it.** -/
theorem trimBoth_parts (p : Char → Bool) (cs : List Char) :
    ∃ front back, cs = front ++ trimBoth p cs ++ back ∧ front.all p = true ∧ back.all p = true := by
  obtain ⟨back, hback, hall⟩ := dropEndWhile_parts p (cs.dropWhile p)
  refine ⟨cs.takeWhile p, back, ?_, ?_, hall⟩
  · show cs = cs.takeWhile p ++ dropEndWhile p (cs.dropWhile p) ++ back
    rw [List.append_assoc, ← hback, List.takeWhile_append_dropWhile]
  · rw [List.all_eq_true]
    intro c hc
    exact List.mem_takeWhile_imp hc

/-- **Nothing more can be trimmed off a core.** -/
theorem trimBoth_bare (p : Char → Bool) (cs : List Char) : Bare p (trimBoth p cs) where
  start := by
    intro c hc
    -- the core starts as the text does behind what is dropped in front
    have hhead : c ∈ (cs.dropWhile p).head? := by
      obtain ⟨back, hback, -⟩ := dropEndWhile_parts p (cs.dropWhile p)
      rw [hback]
      exact List.mem_head?_append_of_mem_head? hc
    have hstop := List.head?_dropWhile_not p cs
    rw [hhead] at hstop
    exact hstop
  finish := dropEndWhile_finish p _

/-- **There is one core.** -/
theorem trimBoth_around (hfront : front.all p = true) (hcore : Bare p core)
    (hback : back.all p = true) : trimBoth p (front ++ core ++ back) = core := by
  cases core with
  | nil =>
    -- the whole text is trimmed off at its start
    have hall : (front ++ [] ++ back).all p = true := by simp [hfront, hback]
    have hnone : (front ++ [] ++ back).dropWhile p = [] :=
      List.dropWhile_eq_nil_iff.2 (List.all_eq_true.1 hall)
    rw [trimBoth, hnone]
    rfl
  | cons c rest =>
    have hkept : (c :: rest ++ back).dropWhile p = c :: rest ++ back := by
      have hc : p c = false := hcore.start c rfl
      exact List.dropWhile_cons_of_neg (ne_true_of_eq_false hc)
    rw [trimBoth, List.append_assoc, dropWhile_append_of_all hfront, hkept,
      dropEndWhile_append_of_all hback, dropEndWhile_of_finish hcore.finish]

/-- What is to be trimmed off behind a text does not change its core. -/
theorem trimBoth_append_of_all (hback : back.all p = true) (cs : List Char) :
    trimBoth p (cs ++ back) = trimBoth p cs := by
  obtain ⟨front, tail, hcs, hfront, htail⟩ := trimBoth_parts p cs
  have hall : (tail ++ back).all p = true := by rw [List.all_append, htail, hback, Bool.and_self]
  conv_lhs => rw [hcs, List.append_assoc]
  exact trimBoth_around hfront (trimBoth_bare p cs) hall

theorem trimBoth_of_bare (h : Bare p cs) : trimBoth p cs = cs := by
  rw [trimBoth, dropWhile_of_bare h, dropEndWhile_of_finish h.finish]

end Trimming

end RenderDesk.Text
