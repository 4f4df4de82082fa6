/-
  RenderDesk.Proofs.Stamping
  ──────────────────────────
  A stamp changes the query of a reference, and can be read back with it.

  A reference is a path, a query behind the first question mark, and a fragment
  behind the first hash.  The stamp stands at the end of the query, behind the
  last equals sign in front of the fragment, whatever the reference looked like
  before.  So every part of a reference, and the stamp, can be read off the
  stamped one.

  Main statements:
    * `takeWhile_joined`, `behind_joined` — reading a front and what is behind it;
    * `toList_parts` — a reference is its three parts;
    * `withoutFragment_stamped`, `fragmentOf_stamped` — what stands in front of the
      fragment of a stamped reference, and behind;
    * `stamped_unique` — from the former both the reference, up to its fragment, and
      the stamp can be read off;
    * `stamped_readable` — the parts of a stamped reference, and all that they tell.
-/
import Mathlib.Data.List.TakeWhile
import RenderDesk.Artifact.Stamp
import RenderDesk.Url.Url

namespace RenderDesk.Text

open RenderDesk.Url (optionalPart)

/-! ## §1. Fronts and what is behind them. -/

/-- The text behind the first occurrence of a mark, if there is one. -/
def behind (mark : Char) (cs : List Char) : Option (List Char) :=
  match cs.dropWhile (· ≠ mark) with
  | [] => none
  | _ :: rest => some rest

section Marks

variable {mark : Char} {cs front : List Char}

theorem ne_of_mem_front (h : mark ∉ front) : ∀ c ∈ front, decide (c ≠ mark) = true := by
  intro c hc
  rw [decide_eq_true_eq]
  rintro rfl
  exact h hc

theorem takeWhile_front (mark : Char) (cs : List Char) : mark ∉ cs.takeWhile (· ≠ mark) := by
  intro hmem
  simpa using List.mem_takeWhile_imp hmem

/-- A text is its front and what is behind. -/
theorem front_behind (mark : Char) (cs : List Char) :
    cs.takeWhile (· ≠ mark) ++ optionalPart mark (behind mark cs) = cs := by
  have hwhole := List.takeWhile_append_dropWhile (p := (· ≠ mark)) (l := cs)
  unfold behind
  cases hrest : cs.dropWhile (· ≠ mark) with
  | nil =>
    rw [hrest] at hwhole
    exact hwhole
  | cons c rest =>
    -- the front stops at a mark only
    have hc : c = mark := by
      have hstop := List.head?_dropWhile_not (· ≠ mark) cs
      rw [hrest] at hstop
      simpa using hstop
    rw [hrest, hc] at hwhole
    exact hwhole

/-- Without a mark a text is all front. -/
theorem takeWhile_of_behind (h : behind mark cs = none) : cs.takeWhile (· ≠ mark) = cs := by
  have hwhole := front_behind mark cs
  rw [h, optionalPart, List.append_nil] at hwhole
  exact hwhole

theorem takeWhile_joined (h : mark ∉ front) (part : Option (List Char)) :
    (front ++ optionalPart mark part).takeWhile (· ≠ mark) = front := by
  cases part with
  | none =>
    rw [optionalPart, List.append_nil]
    exact List.takeWhile_eq_self_iff.2 (ne_of_mem_front h)
  | some rest =>
    rw [optionalPart, List.takeWhile_append_of_pos (ne_of_mem_front h)]
    simp

theorem behind_joined (h : mark ∉ front) (part : Option (List Char)) :
    behind mark (front ++ optionalPart mark part) = part := by
  unfold behind
  rw [List.dropWhile_append_of_pos (ne_of_mem_front h)]
  cases part <;> simp [optionalPart]

/-- Cutting gives the front and what is behind. -/
theorem cutAt_eq (mark : Char) (cs : List Char) :
    cutAt mark cs = (behind mark cs).map fun rest => (cs.takeWhile (· ≠ mark), rest) := by
  cases hbehind : behind mark cs with
  | none =>
    have hfront := List.takeWhile_eq_self_iff.1 (takeWhile_of_behind hbehind)
    refine cut_eq_none_iff.2 fun c hc => ?_
    simpa using hfront c hc
  | some rest =>
    have hwhole := front_behind mark cs
    rw [hbehind] at hwhole
    refine cut_eq_some_iff.2 ⟨mark, by simp, hwhole.symm, fun c hc => ?_⟩
    simpa using List.mem_takeWhile_imp hc

end Marks

end RenderDesk.Text

namespace RenderDesk.Artifact

open RenderDesk.Text
open RenderDesk.Url (optionalPart)

/-! ## §2. The parts of a reference. -/

/-- A reference up to its first hash. -/
def withoutFragment (reference : String) : List Char := reference.toList.takeWhile (· ≠ '#')

/-- What is behind the first hash. -/
def fragmentOf (reference : String) : Option (List Char) := behind '#' reference.toList

/-- What is in front of the first question mark, when there is no fragment. -/
def pathOf (reference : String) : List Char := (withoutFragment reference).takeWhile (· ≠ '?')

/-- What is behind the first question mark, when there is no fragment. -/
def queryOf (reference : String) : Option (List Char) := behind '?' (withoutFragment reference)

theorem withoutFragment_plain (reference : String) : '#' ∉ withoutFragment reference :=
  takeWhile_front '#' _

theorem pathOf_plain (reference : String) : '?' ∉ pathOf reference := takeWhile_front '?' _

theorem toList_front (reference : String) :
    withoutFragment reference ++ optionalPart '#' (fragmentOf reference) = reference.toList :=
  front_behind '#' reference.toList

theorem withoutFragment_parts (reference : String) :
    pathOf reference ++ optionalPart '?' (queryOf reference) = withoutFragment reference :=
  front_behind '?' (withoutFragment reference)

/-- **A reference is its path, its query and its fragment.** -/
theorem toList_parts (reference : String) : reference.toList = pathOf reference
    ++ optionalPart '?' (queryOf reference) ++ optionalPart '#' (fragmentOf reference) := by
  rw [withoutFragment_parts, toList_front]

theorem cutFragment_eq (reference : String) :
    cutFragment reference.toList = (withoutFragment reference, fragmentOf reference) := by
  rw [cutFragment, cutAt_eq, withoutFragment, fragmentOf]
  cases hbehind : behind '#' reference.toList with
  | none =>
    rw [takeWhile_of_behind hbehind]
    rfl
  | some fragment => rfl

/-! ## §3. The place of the stamp. -/

theorem digit_plain {n : Nat} {c : Char} (h : c ∈ Nat.toDigits 10 n) : c ≠ '=' ∧ c ≠ '#' := by
  have hd := Nat.isDigit_of_mem_toDigits (by decide) (by decide) h
  constructor
  · rintro rfl
    exact absurd hd (by decide)
  · rintro rfl
    exact absurd hd (by decide)

theorem toDigits_inj {m n : Nat} (h : Nat.toDigits 10 m = Nat.toDigits 10 n) : m = n := by
  calc m = Nat.ofDigitChars 10 (Nat.toDigits 10 m) 0 := Nat.ofDigitChars_ten_toDigits.symm
    _ = Nat.ofDigitChars 10 (Nat.toDigits 10 n) 0 := by rw [h]
    _ = n := Nat.ofDigitChars_ten_toDigits

/-- What joins a parameter to a reference without fragment. -/
def joiner (base : List Char) : Char := if base.contains '?' then '&' else '?'

theorem joiner_plain (base : List Char) : joiner base ≠ '#' := by
  unfold joiner
  split <;> decide

/-- A reference without fragment, with a stamp. -/
def marked (base : List Char) (stamp : UInt64) : List Char :=
  base ++ joiner base :: 't' :: '=' :: Nat.toDigits 10 stamp.toNat

theorem marked_plain {base : List Char} (h : '#' ∉ base) (stamp : UInt64) :
    '#' ∉ marked base stamp := by
  simp only [marked, List.mem_append, List.mem_cons, not_or]
  exact ⟨h, (joiner_plain base).symm, by decide, by decide, fun hmem => (digit_plain hmem).2 rfl⟩

/-- The stamp stands in front of the fragment, which stays last. -/
theorem toList_stamped (reference : String) (stamp : UInt64) : (stamped reference stamp).toList
    = marked (withoutFragment reference) stamp ++ optionalPart '#' (fragmentOf reference) := by
  unfold stamped stampedChars
  rw [String.toList_ofList, cutFragment_eq]
  cases fragmentOf reference with
  | none => exact (List.append_nil _).symm
  | some fragment => rfl

/-- The stamp stands in front of the fragment. -/
theorem withoutFragment_stamped (reference : String) (stamp : UInt64) :
    withoutFragment (stamped reference stamp) = marked (withoutFragment reference) stamp := by
  rw [withoutFragment, toList_stamped,
    takeWhile_joined (marked_plain (withoutFragment_plain reference) stamp)]

theorem fragmentOf_stamped (reference : String) (stamp : UInt64) :
    fragmentOf (stamped reference stamp) = fragmentOf reference := by
  rw [fragmentOf, toList_stamped,
    behind_joined (marked_plain (withoutFragment_plain reference) stamp)]

/-- A query with a stamp, alone or behind others. -/
def stampedQuery (query : Option (List Char)) (stamp : UInt64) : List Char :=
  match query with
  | some query => query ++ "&t=".toList ++ Nat.toDigits 10 stamp.toNat
  | none => "t=".toList ++ Nat.toDigits 10 stamp.toNat

/-- A stamp goes to the end of the query. -/
theorem marked_parts {path : List Char} (h : '?' ∉ path) (query : Option (List Char))
    (stamp : UInt64) : marked (path ++ optionalPart '?' query) stamp
      = path ++ optionalPart '?' (some (stampedQuery query stamp)) := by
  cases query with
  | none => simp [marked, joiner, stampedQuery, optionalPart, h]
  | some query => simp [marked, joiner, stampedQuery, optionalPart]

/-- What is in front of the fragment is the old path and the stamped query. -/
theorem withoutFragment_stamped_parts (reference : String) (stamp : UInt64) :
    withoutFragment (stamped reference stamp)
      = pathOf reference ++ optionalPart '?' (some (stampedQuery (queryOf reference) stamp)) := by
  rw [withoutFragment_stamped, ← withoutFragment_parts, marked_parts (pathOf_plain reference)]

theorem pathOf_stamped (reference : String) (stamp : UInt64) :
    pathOf (stamped reference stamp) = pathOf reference := by
  rw [pathOf, withoutFragment_stamped_parts, takeWhile_joined (pathOf_plain reference)]

theorem queryOf_stamped (reference : String) (stamp : UInt64) :
    queryOf (stamped reference stamp) = some (stampedQuery (queryOf reference) stamp) := by
  rw [queryOf, withoutFragment_stamped_parts, behind_joined (pathOf_plain reference)]

/-! ## §4. Reading the stamp. -/

/-- Behind its last equals sign a text can be cut in one way only. -/
theorem last_equals_unique {front other digits others : List Char}
    (hd : '=' ∉ digits) (ho : '=' ∉ others)
    (h : front ++ '=' :: digits = other ++ '=' :: others) : front = other ∧ digits = others := by
  -- read from the end, the last one is the first one
  have hcut : ∀ xs ys : List Char, '=' ∉ ys →
      cutAt '=' (xs ++ '=' :: ys).reverse = some (ys.reverse, xs.reverse) := by
    intro xs ys hys
    refine cut_eq_some_iff.2 ⟨'=', by decide, by simp, ?_⟩
    intro c hc
    have hne : c ≠ '=' := by
      rintro rfl
      exact hys (List.mem_reverse.1 hc)
    simpa using hne
  have hsame : some (digits.reverse, front.reverse) = some (others.reverse, other.reverse) := by
    rw [← hcut front digits hd, ← hcut other others ho, h]
  injection hsame with hpair
  injection hpair with hdigits hfront
  exact ⟨List.reverse_inj.1 hfront, List.reverse_inj.1 hdigits⟩

/-- **A stamped reference tells its stamp**, and the reference before, up to its
fragment. -/
theorem stamped_unique {reference other : String} {stamp later : UInt64}
    (h : withoutFragment (stamped reference stamp) = withoutFragment (stamped other later)) :
    withoutFragment reference = withoutFragment other ∧ stamp = later := by
  rw [withoutFragment_stamped, withoutFragment_stamped] at h
  have hcut : ∀ base n,
      marked base n = (base ++ [joiner base, 't']) ++ '=' :: Nat.toDigits 10 n.toNat := by
    intro base n
    simp [marked]
  rw [hcut, hcut] at h
  obtain ⟨hbase, hdigits⟩ := last_equals_unique (fun hmem => (digit_plain hmem).1 rfl)
    (fun hmem => (digit_plain hmem).1 rfl) h
  refine ⟨(List.append_inj' hbase rfl).1, ?_⟩
  exact UInt64.toNat_inj.1 (toDigits_inj hdigits)

/-- A stamped reference can be read back. -/
structure Readable (reference : String) (stamp : UInt64) : Prop where
  /-- No other reference, and no other stamp, gives the same text. -/
  unique : ∀ other later, stamped other later = stamped reference stamp →
    other = reference ∧ later = stamp
  /-- The text in front of the fragment is enough, up to the fragment. -/
  front : ∀ other later,
    withoutFragment (stamped other later) = withoutFragment (stamped reference stamp) →
    withoutFragment other = withoutFragment reference ∧ later = stamp
  fragment : fragmentOf (stamped reference stamp) = fragmentOf reference
  path : pathOf (stamped reference stamp) = pathOf reference
  query : queryOf (stamped reference stamp) = some (stampedQuery (queryOf reference) stamp)

/-- **A stamped reference can be read back**, whatever the reference looks like. -/
theorem stamped_readable (reference : String) (stamp : UInt64) : Readable reference stamp where
  unique := by
    intro other later h
    obtain ⟨hfront, hstamp⟩ := stamped_unique (congrArg withoutFragment h)
    have hfragment : fragmentOf other = fragmentOf reference := by
      rw [← fragmentOf_stamped other later, h, fragmentOf_stamped]
    have hlist : other.toList = reference.toList := by
      rw [← toList_front other, hfront, hfragment, toList_front]
    exact ⟨String.toList_inj.1 hlist, hstamp⟩
  front := fun _ _ h => stamped_unique h
  fragment := fragmentOf_stamped reference stamp
  path := pathOf_stamped reference stamp
  query := queryOf_stamped reference stamp

end RenderDesk.Artifact
