/-
  RenderDesk.Proofs.Growing
  ─────────────────────────
  What making directories does to a tree.

  A directory is made after those above it, so several may be new when it is
  there, or when making it has failed.  All of them are on the way to it, and
  everything else is as it was.

  Main statements:
    * `ancestors_along` — the paths above a path lead along its way;
    * `makeDirectories_grown` — directories are made on the way only;
    * `ensureDirectory_grown` — and so it is when a directory is made sure of.
-/
import RenderDesk.Proofs.Places

namespace RenderDesk.Files

/-! ## §1. The names of the paths above a path. -/

theorem mem_initsDown {all front : List String} (h : front ∈ initsDown all) : front <+: all := by
  induction all generalizing front with
  | nil => cases h
  | cons name all ih =>
    rcases List.mem_append.1 h with hmap | hnil
    · obtain ⟨rest, hrest, rfl⟩ := List.mem_map.1 hmap
      exact List.cons_prefix_cons.2 ⟨rfl, ih hrest⟩
    · rw [List.mem_singleton.1 hnil]
      exact List.nil_prefix

theorem properNames_subset {absolute : Bool} {all : List String} :
    ∀ name ∈ properNames absolute all, name ∈ all := by
  intro name hname
  cases all with
  | nil => exact hname
  | cons first all =>
    simp only [properNames] at hname
    split at hname
    · exact List.mem_cons_of_mem _ (List.mem_filter.1 hname).1
    · rcases List.mem_cons.1 hname with rfl | hrest
      · exact List.mem_cons_self
      · exact List.mem_cons_of_mem _ (List.mem_filter.1 hrest).1

theorem names_assemble {absolute : Bool} {all : List String}
    (h : ∀ name ∈ all, name ≠ "" ∧ '/' ∉ name.toList) : names (assemble absolute all) = all := by
  cases absolute with
  | false =>
    show names ("" ++ "/".intercalate all) = all
    rw [String.empty_append, names_intercalate h]
  | true =>
    have hroot := names_joined "" ("/".intercalate all)
    rw [String.empty_append] at hroot
    show names ("/" ++ "/".intercalate all) = all
    rw [hroot, names_intercalate h]
    rfl

theorem isAbsolute_assemble (absolute : Bool) {all : List String}
    (h : ∀ name ∈ all, name ≠ "" ∧ '/' ∉ name.toList) :
    isAbsolute (assemble absolute all) = absolute := by
  cases absolute with
  | true => exact isAbsolute_append (by decide) _
  | false =>
    cases all with
    | nil => rfl
    | cons name all =>
      obtain ⟨hne, hslash⟩ := h name List.mem_cons_self
      -- the first character is that of the first name
      cases hname : name.toList with
      | nil => exact absurd (String.toList_eq_nil_iff.1 hname) hne
      | cons c cs =>
        have hc : c ≠ '/' := fun hc => hslash (by simp [hname, hc])
        cases all <;> simp [isAbsolute, assemble, hname, hc]

namespace Tree

/-! ## §2. Trees that have grown. -/

/-- One tree has come from another by making directories on the way of a path:
all else is as it was. -/
structure Grown (way : Path) (t t' : Tree) : Prop where
  working : t'.working = t.working
  find? : ∀ l, t'.find? l = t.find? l
    ∨ t.find? l = none ∧ t'.find? l = some .directory ∧ t'.OnWay way l

theorem Grown.refl (way : Path) (t : Tree) : Grown way t t := ⟨rfl, fun _ => .inl rfl⟩

/-- What was there stays. -/
theorem Grown.kept {way : Path} {t t' : Tree} (h : Grown way t t') {l : Location} {node : Node}
    (hl : t.find? l = some node) : t'.find? l = some node := by
  rcases h.find? l with hsame | ⟨hnone, _⟩
  · rw [hsame, hl]
  · rw [hl] at hnone
    cases hnone

theorem Grown.directories {way : Path} {t t' : Tree} (h : Grown way t t') : Directories t t' :=
  ⟨h.working, fun _ hl => h.kept hl⟩

theorem Grown.trans {way : Path} {t t' t'' : Tree} (h : Grown way t t') (h' : Grown way t' t'') :
    Grown way t t'' := by
  refine ⟨h'.working.trans h.working, fun l => ?_⟩
  rcases h.find? l with hsame | ⟨hnone, hmade, hway⟩
  · rw [← hsame]
    exact h'.find? l
  · -- what the first made is still there after the second
    exact .inr ⟨hnone, h'.kept hmade, hway.of_directories h'.directories⟩

/-- Where nothing is kept differently, a tree has grown just as much. -/
theorem Grown.congr {way : Path} {t t' t'' : Tree} (h : Grown way t t')
    (hw : t''.working = t'.working) (hf : ∀ l, t''.find? l = t'.find? l) : Grown way t t'' :=
  h.trans ⟨hw, fun l => .inl (hf l)⟩

/-- Every place that a path leads to is on the way of another. -/
def Along (way path : Path) : Prop := ∀ (t : Tree) (place : Location), t.Leads path place → t.OnWay way place

theorem along_self (way : Path) : Along way way := fun _ _ h => h.onWay

/-! ## §3. The paths above a path. -/

theorem walk_cons_congr {front all : List String} (first : String)
    (h : ∀ (t : Tree) (place : Location), t.walk place front = t.walk place all)
    (t : Tree) (place : Location) :
    t.walk place (first :: front) = t.walk place (first :: all) := by
  simp only [walk, bind]
  cases t.enter place first with
  | error e => rfl
  | ok next => exact h t next

/-- Names that come before others of a list count for a walk even when dots are
left out. -/
theorem walk_without_dots {all front : List String} (h : front <+: all.filter (· ≠ ".")) :
    ∃ n, ∀ (t : Tree) (place : Location), t.walk place front = t.walk place (all.take n) := by
  induction all generalizing front with
  | nil =>
    rw [List.filter_nil, List.prefix_nil] at h
    exact ⟨0, fun t place => by rw [h]; rfl⟩
  | cons name all ih =>
    by_cases hdot : name = "."
    · subst hdot
      have hrest : front <+: all.filter (· ≠ ".") := by simpa using h
      obtain ⟨n, hn⟩ := ih hrest
      refine ⟨n + 1, fun t place => ?_⟩
      rw [List.take_succ_cons, hn t place]
      rfl
    · rw [List.filter_cons_of_pos (by simpa using hdot)] at h
      cases front with
      | nil => exact ⟨0, fun _ _ => rfl⟩
      | cons first front =>
        obtain ⟨rfl, hfront⟩ := List.cons_prefix_cons.1 h
        obtain ⟨n, hn⟩ := ih hfront
        exact ⟨n + 1, walk_cons_congr first hn⟩

/-- The names that matter for what a path contains are walked like the path. -/
theorem walk_properNames {all front : List String} {absolute : Bool}
    (h : front <+: properNames absolute all) :
    ∃ n, ∀ (t : Tree) (place : Location), t.walk place front = t.walk place (all.take n) := by
  cases all with
  | nil => exact ⟨0, fun t place => by rw [List.prefix_nil.1 h]; rfl⟩
  | cons name all =>
    simp only [properNames] at h
    split at h
    · next hdot =>
      -- a dot at the start of an absolute path is left out like any other
      refine walk_without_dots ?_
      have hname : name = "." := by simpa using (Bool.and_eq_true_iff.1 hdot).1
      rw [List.filter_cons_of_neg (by simp [hname])]
      exact h
    · cases front with
      | nil => exact ⟨0, fun _ _ => rfl⟩
      | cons first front =>
        obtain ⟨rfl, hfront⟩ := List.cons_prefix_cons.1 h
        obtain ⟨n, hn⟩ := walk_without_dots hfront
        exact ⟨n + 1, walk_cons_congr first hn⟩

/-- **The paths above a path** lead along its way. -/
theorem ancestors_along {way path : Path} (h : path ∈ ancestors way) : Along way path := by
  obtain ⟨front, hfront, rfl⟩ := List.mem_map.1 h
  have hinits := mem_initsDown hfront
  have hnames : ∀ name ∈ front, name ≠ "" ∧ '/' ∉ name.toList := fun name hname =>
    mem_names (properNames_subset name (hinits.subset hname))
  obtain ⟨n, hn⟩ := walk_properNames hinits
  intro t place hleads
  refine ⟨n, ?_⟩
  unfold Leads at hleads
  rw [← hn, start, ← isAbsolute_assemble (isAbsolute way) hnames, ← start]
  rw [names_assemble hnames] at hleads
  exact hleads

/-! ## §4. Making directories. -/

/-- What making one directory has found, and what it leaves. -/
theorem makeDirectory_target {t t' : Tree} {path : Path} (h : t.makeDirectory path = .ok t') :
    ∃ dir name, t.parentOf path = .ok (dir, .plain name) ∧ ¬nameLimit < name.utf8ByteSize
      ∧ t.find? (dir ++ [name]) = none ∧ t' = t.put (dir ++ [name]) .directory := by
  unfold makeDirectory at h
  obtain ⟨⟨dir, last⟩, hparent, h⟩ := bind_eq_ok h
  cases last with
  | special => cases h
  | plain name =>
    obtain ⟨⟨place, found⟩, hslot, h⟩ := bind_eq_ok h
    obtain ⟨hshort, hfound⟩ := slot_eq_ok hslot
    injection hfound with hplace hfind
    cases found with
    | some node => cases h
    | none =>
      injection h with h
      exact ⟨dir, name, hparent, hshort, hfind.symm, by rw [← h, hplace]⟩

/-- A tree in which no directory is replaced keeps its directories. -/
theorem put_directories {t : Tree} {l : Location} (hl : l ≠ []) (hfile : t.find? l ≠ some .directory)
    (node : Node) : Directories t (t.put l node) := by
  refine ⟨rfl, fun m hm => ?_⟩
  have hml : m ≠ l := by
    rintro rfl
    exact hfile hm
  rw [find?_put t hl, if_neg hml]
  exact hm

theorem makeDirectory_grown {way path : Path} {t t' : Tree} (hway : Along way path)
    (h : t.makeDirectory path = .ok t') : Grown way t t' := by
  obtain ⟨dir, name, hparent, hshort, hnone, rfl⟩ := makeDirectory_target h
  have hplace : dir ++ [name] ≠ [] := by simp
  refine ⟨rfl, fun l => ?_⟩
  by_cases hl : l = dir ++ [name]
  · subst hl
    have hmade : (t.put (dir ++ [name]) .directory).find? (dir ++ [name]) = some .directory := by
      rw [find?_put t hplace, if_pos rfl]
    refine .inr ⟨hnone, hmade, hway _ _ ?_⟩
    -- the path leads to what it has just made
    obtain ⟨_, hdir, hnames, hdot, hdots⟩ := parentOf_plain hparent
    have hdirs := put_directories (t := t) hplace (by simp [hnone]) .directory
    have hwalk := walk_of_directories hdirs hdir
    unfold Leads
    rw [hnames, walk_append, show (t.put (dir ++ [name]) .directory).start path = t.start path from rfl,
      hwalk]
    show walk _ dir [name] = _
    rw [walk_single, enter_directory hdot hdots hshort hmade]
  · exact .inl (by rw [find?_put t hplace, if_neg hl])

theorem makeAllowed_grown {way path : Path} {refused : Refusals} {t t' : Tree}
    (hway : Along way path) (h : t.makeAllowed refused path = .ok t') : Grown way t t' := by
  unfold makeAllowed at h
  split at h
  · cases h
  · exact makeDirectory_grown hway h

theorem makeAfter_grown {way path : Path} {t : Tree} {above : Unit → Except IoError Unit × Tree}
    (hway : Along way path) (habove : Grown way t (above ()).2) (refused : Refusals) :
    Grown way t (t.makeAfter refused path above).2 := by
  unfold makeAfter
  split
  · next hmade => exact makeAllowed_grown hway hmade
  · -- the directories above come first, and stay when this one fails
    split
    · next heq =>
      rw [heq] at habove
      exact habove
    · next heq =>
      rw [heq] at habove
      split
      · next hmade => exact habove.trans (makeAllowed_grown hway hmade)
      · exact habove
  · exact .refl way t

theorem makeUnder_grown {way : Path} (refused : Refusals) {above : List Path} {path : Path}
    (t : Tree) (h : ∀ q ∈ path :: above, Along way q) :
    Grown way t (t.makeUnder refused path above).2 := by
  induction above generalizing path with
  | nil => exact makeAfter_grown (h path List.mem_cons_self) (.refl way t) refused
  | cons parent above ih =>
    refine makeAfter_grown (h path List.mem_cons_self) ?_ refused
    split
    · exact .refl way t
    · exact ih fun q hq => h q (List.mem_cons_of_mem _ hq)

/-- **Directories are made on the way only**, also when making them fails. -/
theorem makeDirectories_grown (t : Tree) (path : Path) (refused : Refusals) :
    Grown path t (t.makeDirectories path refused).2 := by
  unfold makeDirectories
  split
  · exact .refl path t
  · refine makeUnder_grown refused t fun q hq => ?_
    rcases List.mem_cons.1 hq with rfl | hq
    · exact along_self q
    · exact ancestors_along hq

end Tree

end RenderDesk.Files

namespace RenderDesk.Storage

open RenderDesk.Files

theorem ensureDirectory_grown (dir : Path) (t : Tree) (faults : Faults) :
    Tree.Grown dir t (ensureDirectory dir t faults).2 := by
  have hgrown := t.makeDirectories_grown dir faults.directories
  unfold ensureDirectory
  split
  · split <;> exact .refl dir t
  · split <;>
      (next heq =>
        rw [heq] at hgrown
        exact hgrown)

end RenderDesk.Storage
