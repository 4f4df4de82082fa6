/-
  RenderDesk.Proofs.Places
  ────────────────────────
  Where a path leads.

  A path is walked name by name.  So a plain name that is joined to the path
  of a directory is looked up in the place to which that directory leads.

  Main statements:
    * `names_join` — a plain name comes last in a path that it was joined to;
    * `parentOf_join` — and is looked up where the path leads;
    * `leads_of_lookup`, `lookup_of_leads` — a path names a directory exactly when
      it leads to it.
-/
import RenderDesk.Proofs.StoredText

namespace RenderDesk.Files

open RenderDesk.Text (parts parts_of_not_mem parts_append parts_joined)

/-! ## §1. Plain names. -/

/-- A name that is one component of a path, and stands for itself. -/
structure PlainName (name : String) : Prop where
  nonempty : name ≠ ""
  notDot : name ≠ "."
  notDots : name ≠ ".."
  noSlash : '/' ∉ name.toList

theorem PlainName.relative {name : String} (h : PlainName name) : isAbsolute name = false := by
  unfold isAbsolute
  cases hl : name.toList with
  | nil => rfl
  | cons c cs =>
    have hc : c ≠ '/' := by
      intro hc
      exact h.noSlash (by simp [hl, hc])
    simp [hc]

theorem names_of_plain {name : String} (hne : name ≠ "") (hs : '/' ∉ name.toList) :
    names name = [name] := by
  have hnil : name.toList ≠ [] := fun hnil => hne (String.toList_eq_nil_iff.1 hnil)
  simp [names, parts_of_not_mem hs, hnil]

/-- The names of two paths with a slash between them. -/
theorem names_joined (path rest : Path) : names (path ++ "/" ++ rest) = names path ++ names rest := by
  have hslash : ("/" : String).toList = ['/'] := rfl
  unfold names
  rw [String.toList_append, String.toList_append, hslash, List.append_assoc, List.singleton_append,
    parts_joined, List.filter_append, List.map_append]

/-- A path that ends in a slash is another path and that slash. -/
theorem endsInSlash_cut {dir : Path} (h : endsInSlash dir = true) : ∃ front, dir = front ++ "/" := by
  have hlast : dir.toList.getLast? = some '/' := by simpa [endsInSlash] using h
  obtain ⟨front, hfront⟩ := List.getLast?_eq_some_iff.1 hlast
  refine ⟨String.ofList front, String.toList_injective ?_⟩
  simp [hfront]

/-! ## §2. A plain name joined to a path. -/

section Join

variable {dir : Path} {name : String}

/-- **A plain name comes last** in a path that it was joined to. -/
theorem names_join (h : PlainName name) : names (join dir name) = names dir ++ [name] := by
  have hname := names_of_plain h.nonempty h.noSlash
  unfold join
  rw [h.relative, Bool.false_or]
  by_cases hempty : dir.isEmpty = true
  · rw [if_pos hempty, String.isEmpty_iff.1 hempty]
    exact hname
  · rw [if_neg hempty]
    by_cases hslash : endsInSlash dir = true
    · rw [if_pos hslash]
      obtain ⟨front, rfl⟩ := endsInSlash_cut hslash
      have hfront : names (front ++ "/") = names front := by
        have hjoined := names_joined front ""
        rw [String.append_empty] at hjoined
        rw [hjoined]
        exact List.append_nil _
      rw [names_joined, hfront, hname]
    · rw [if_neg hslash, names_joined, hname]

theorem isAbsolute_append {front : Path} (h : front ≠ "") (rest : Path) :
    isAbsolute (front ++ rest) = isAbsolute front := by
  unfold isAbsolute
  cases hfront : front.toList with
  | nil => exact absurd (String.toList_eq_nil_iff.1 hfront) h
  | cons c cs => simp [String.toList_append, hfront]

theorem isAbsolute_join (h : PlainName name) : isAbsolute (join dir name) = isAbsolute dir := by
  unfold join
  rw [h.relative, Bool.false_or]
  by_cases hempty : dir.isEmpty = true
  · rw [if_pos hempty, String.isEmpty_iff.1 hempty]
    exact h.relative
  · have hne : dir ≠ "" := fun he => hempty (String.isEmpty_iff.2 he)
    rw [if_neg hempty]
    by_cases hslash : endsInSlash dir = true
    · rw [if_pos hslash, isAbsolute_append hne]
    · rw [if_neg hslash, String.append_assoc, isAbsolute_append hne]

theorem endsInSlash_append {rest : Path} (h : rest ≠ "") (front : Path) :
    endsInSlash (front ++ rest) = endsInSlash rest := by
  have hnil : rest.toList ≠ [] := fun hnil => h (String.toList_eq_nil_iff.1 hnil)
  unfold endsInSlash
  rw [String.toList_append, List.getLast?_append, List.getLast?_eq_some_getLast hnil, Option.some_or]

theorem PlainName.noSlashAtEnd (h : PlainName name) : endsInSlash name = false := by
  have hlast : name.toList.getLast? ≠ some '/' :=
    fun hlast => h.noSlash (List.mem_of_getLast? hlast)
  simpa [endsInSlash] using hlast

theorem endsInSlash_join (h : PlainName name) : endsInSlash (join dir name) = false := by
  have hname := h.noSlashAtEnd
  unfold join
  rw [h.relative, Bool.false_or]
  by_cases hempty : dir.isEmpty = true
  · rw [if_pos hempty]
    exact hname
  · rw [if_neg hempty]
    by_cases hslash : endsInSlash dir = true
    · rw [if_pos hslash, endsInSlash_append h.nonempty, hname]
    · rw [if_neg hslash, endsInSlash_append h.nonempty, hname]

end Join

/-! ## §3. Paths put together from names. -/

/-- A name of a path is not empty and has no slash. -/
theorem mem_names {path : Path} {name : String} (h : name ∈ names path) :
    name ≠ "" ∧ '/' ∉ name.toList := by
  obtain ⟨part, hpart, rfl⟩ := List.mem_map.1 h
  obtain ⟨hmem, hne⟩ := List.mem_filter.1 hpart
  refine ⟨fun hempty => ?_, ?_⟩
  · have hnil : part = [] := by simpa using congrArg String.toList hempty
    simp [hnil] at hne
  · rw [String.toList_ofList]
    exact Text.not_mem_of_mem_parts hmem

theorem names_intercalate {all : List String} (h : ∀ name ∈ all, name ≠ "" ∧ '/' ∉ name.toList) :
    names ("/".intercalate all) = all := by
  induction all with
  | nil => rfl
  | cons name all ih =>
    have hname := names_of_plain (h name List.mem_cons_self).1 (h name List.mem_cons_self).2
    have hall := ih fun other hother => h other (List.mem_cons_of_mem _ hother)
    cases all with
    | nil => rw [String.intercalate_singleton, hname]
    | cons next all =>
      have hjoined : "/".intercalate (name :: next :: all)
          = name ++ "/" ++ "/".intercalate (next :: all) := by
        apply String.toList_injective
        simp
      rw [hjoined, names_joined, hname, hall]
      rfl

namespace Tree

/-! ## §4. Where a path leads. -/

/-- The path leads through directories to a place. -/
def Leads (t : Tree) (path : Path) (place : Location) : Prop :=
  t.walk (t.start path) (names path) = .ok place

/-- The walk along a path comes through a place. -/
def OnWay (t : Tree) (path : Path) (place : Location) : Prop :=
  ∃ n, t.walk (t.start path) ((names path).take n) = .ok place

theorem Leads.onWay {t : Tree} {path : Path} {place : Location} (h : t.Leads path place) :
    t.OnWay path place :=
  ⟨(names path).length, by rw [List.take_length]; exact h⟩

theorem Leads.unique {t : Tree} {path : Path} {place other : Location} (h : t.Leads path place)
    (ho : t.Leads path other) : place = other := by
  unfold Leads at h ho
  rw [h] at ho
  exact Except.ok.inj ho

theorem walk_append (t : Tree) (place : Location) (front rest : List String) :
    t.walk place (front ++ rest) = (t.walk place front).bind (t.walk · rest) := by
  induction front generalizing place with
  | nil => rfl
  | cons name front ih =>
    simp only [List.cons_append, walk, bind]
    cases t.enter place name with
    | error e => rfl
    | ok next => exact ih next

theorem walk_single (t : Tree) (place : Location) (name : String) :
    t.walk place [name] = t.enter place name := by
  simp only [walk, bind]
  cases t.enter place name <;> rfl

/-- One name further, into a directory that is there. -/
theorem enter_directory {t : Tree} {place : Location} {name : String} (hdot : name ≠ ".")
    (hdots : name ≠ "..") (hshort : ¬nameLimit < name.utf8ByteSize)
    (hfind : t.find? (place ++ [name]) = some .directory) :
    t.enter place name = .ok (place ++ [name]) := by
  simp only [enter, hdot, hdots, hshort, if_false, hfind]

/-- A directory that was entered by its name. -/
theorem enter_target {t : Tree} {place next : Location} {name : String} (hdot : name ≠ ".")
    (hdots : name ≠ "..") (h : t.enter place name = .ok next) :
    ¬nameLimit < name.utf8ByteSize ∧ next = place ++ [name]
      ∧ t.find? (place ++ [name]) = some .directory := by
  simp only [enter, hdot, hdots, if_false] at h
  split at h
  · cases h
  · next hshort =>
    split at h
    · next hfind =>
      injection h with h
      exact ⟨hshort, h.symm, hfind⟩
    · cases h
    · cases h

theorem LastName.of_eq_plain_iff {last : Option String} {name : String} :
    LastName.of last = .plain name ↔ last = some name ∧ name ≠ "." ∧ name ≠ ".." := by
  cases last with
  | none => simp [LastName.of]
  | some last =>
    by_cases hspecial : last = "." ∨ last = ".."
    · have hof : LastName.of (some last) = .special := by simp [LastName.of, hspecial]
      rw [hof]
      constructor
      · rintro ⟨⟩
      · rintro ⟨hlast, hdot, hdots⟩
        obtain rfl := Option.some.inj hlast
        exact absurd hspecial (not_or.2 ⟨hdot, hdots⟩)
    · obtain ⟨hdot, hdots⟩ := not_or.1 hspecial
      have hof : LastName.of (some last) = .plain last := by simp [LastName.of, hdot, hdots]
      rw [hof]
      constructor
      · rintro ⟨⟩
        exact ⟨rfl, hdot, hdots⟩
      · rintro ⟨hlast, -, -⟩
        rw [Option.some.inj hlast]

/-- What holds a path's last name is where the names before it lead. -/
theorem parentOf_eq_ok_iff {t : Tree} {path : Path} {dir : Location} {last : LastName} :
    t.parentOf path = .ok (dir, last) ↔
      checkPath path = .ok () ∧ t.walk (t.start path) (names path).dropLast = .ok dir
        ∧ LastName.of (names path).getLast? = last := by
  unfold parentOf
  cases checkPath path with
  | error e => simp [bind, Except.bind]
  | ok _ =>
    cases t.walk (t.start path) (names path).dropLast with
    | error e => simp [bind, Except.bind]
    | ok found => simp [bind, Except.bind, pure, Except.pure]

/-- A path whose last name is plain. -/
theorem parentOf_plain {t : Tree} {path : Path} {dir : Location} {name : String}
    (h : t.parentOf path = .ok (dir, .plain name)) :
    checkPath path = .ok () ∧ t.walk (t.start path) (names path).dropLast = .ok dir
      ∧ names path = (names path).dropLast ++ [name] ∧ name ≠ "." ∧ name ≠ ".." := by
  obtain ⟨hcheck, hwalk, hlast⟩ := parentOf_eq_ok_iff.1 h
  obtain ⟨hlast, hdot, hdots⟩ := LastName.of_eq_plain_iff.1 hlast
  obtain ⟨front, hfront⟩ := List.getLast?_eq_some_iff.1 hlast
  refine ⟨hcheck, hwalk, ?_, hdot, hdots⟩
  rw [hfront, List.dropLast_concat]

theorem start_join {dir : Path} {name : String} (h : PlainName name) (t : Tree) :
    t.start (join dir name) = t.start dir := by
  rw [start, start, isAbsolute_join h]

/-- **A plain name that is joined to a path** is looked up where the path leads. -/
theorem parentOf_join {dir : Path} {name : String} (h : PlainName name) (t : Tree) :
    t.parentOf (join dir name) = (checkPath (join dir name)).bind fun _ =>
      (t.walk (t.start dir) (names dir)).bind fun place => .ok (place, .plain name) := by
  have hlast : LastName.of (names dir ++ [name]).getLast? = .plain name :=
    LastName.of_eq_plain_iff.2 ⟨List.getLast?_concat, h.notDot, h.notDots⟩
  unfold parentOf
  rw [start_join h, names_join h, List.dropLast_concat, hlast]
  rfl

theorem parentOf_join_ok {dir : Path} {name : String} (h : PlainName name) {t : Tree}
    {place : Location} (hc : checkPath (join dir name) = .ok ()) (hl : t.Leads dir place) :
    t.parentOf (join dir name) = .ok (place, .plain name) := by
  unfold Leads at hl
  rw [parentOf_join h, hc, hl]
  rfl

/-- What the directory of a path that was looked up leads to. -/
theorem leads_of_parentOf {dir : Path} {name : String} (h : PlainName name) {t : Tree}
    {place : Location} {last : LastName} (hp : t.parentOf (join dir name) = .ok (place, last)) :
    t.Leads dir place ∧ last = .plain name := by
  obtain ⟨-, hwalk, hlast⟩ := parentOf_eq_ok_iff.1 hp
  rw [start_join h, names_join h, List.dropLast_concat] at hwalk
  rw [names_join h, List.getLast?_concat,
    LastName.of_eq_plain_iff.2 ⟨rfl, h.notDot, h.notDots⟩] at hlast
  exact ⟨hwalk, hlast.symm⟩

theorem Leads.of_directories {t t' : Tree} (h : Directories t t') {path : Path} {place : Location}
    (hl : t.Leads path place) : t'.Leads path place := by
  unfold Leads at hl ⊢
  rw [start, h.1]
  exact walk_of_directories h hl

theorem OnWay.of_directories {t t' : Tree} (h : Directories t t') {path : Path} {place : Location}
    (ho : t.OnWay path place) : t'.OnWay path place := by
  obtain ⟨n, hn⟩ := ho
  refine ⟨n, ?_⟩
  rw [start, h.1]
  exact walk_of_directories h hn

/-- A path that ends in a dot or two, or has no names, names the directory that it
leads to. -/
theorem lookup_special {t : Tree} {path : Path} {dir : Location}
    (h : t.parentOf path = .ok (dir, .special)) :
    t.lookup path = (t.walk (t.start path) (names path)).bind fun place =>
      .ok (place, .directory) := by
  simp only [lookup, h, bind, Except.bind]
  rfl

/-- A path that was found to be a directory leads to it. -/
theorem leads_of_lookup {t : Tree} {path : Path} {place : Location}
    (h : t.lookup path = .ok (place, .directory)) : t.Leads path place := by
  unfold Leads
  unfold lookup at h
  obtain ⟨⟨dir, last⟩, hparent, h⟩ := bind_eq_ok h
  cases last with
  | special =>
    obtain ⟨found, hwalk, h⟩ := bind_eq_ok h
    cases h
    exact hwalk
  | plain name =>
    obtain ⟨_, hdir, hnames, hdot, hdots⟩ := parentOf_plain hparent
    obtain ⟨⟨_, found⟩, hslot, h⟩ := bind_eq_ok h
    obtain ⟨hshort, hfound⟩ := slot_eq_ok hslot
    injection hfound with hplace hfind
    cases found with
    | none => cases h
    | some node =>
      cases node with
      | file content =>
        dsimp only at h
        split at h <;> cases h
      | directory =>
        cases h
        subst hplace
        rw [hnames, walk_append, hdir]
        show t.walk dir [name] = _
        rw [walk_single, enter_directory hdot hdots hshort hfind.symm]

/-- A path that leads to a place names the directory there. -/
theorem lookup_of_leads {t : Tree} {path : Path} {place : Location}
    (hcheck : checkPath path = .ok ()) (h : t.Leads path place) :
    t.lookup path = .ok (place, .directory) := by
  have hspecial : ∀ parent, t.parentOf path = .ok (parent, .special) →
      t.lookup path = .ok (place, .directory) := by
    intro parent hparent
    rw [lookup_special hparent, show t.walk (t.start path) (names path) = _ from h]
    rfl
  cases hl : (names path).getLast? with
  | none =>
    have hnames := List.getLast?_eq_none_iff.1 hl
    exact hspecial (t.start path)
      (parentOf_eq_ok_iff.2 ⟨hcheck, by rw [hnames]; rfl, by rw [hl]; rfl⟩)
  | some name =>
    obtain ⟨front, hfront⟩ := List.getLast?_eq_some_iff.1 hl
    unfold Leads at h
    rw [hfront, walk_append] at h
    cases hw : t.walk (t.start path) front with
    | error e =>
      rw [hw] at h
      cases h
    | ok parent =>
      rw [hw] at h
      have henter : t.enter parent name = .ok place := (t.walk_single parent name) ▸ h
      have hparent : t.parentOf path = .ok (parent, .of (some name)) :=
        parentOf_eq_ok_iff.2 ⟨hcheck, by rw [hfront, List.dropLast_concat]; exact hw, by rw [hl]⟩
      by_cases hdots : name = "." ∨ name = ".."
      · refine hspecial parent (hparent.trans ?_)
        rcases hdots with rfl | rfl <;> rfl
      · obtain ⟨hdot, hdots⟩ := not_or.1 hdots
        obtain ⟨hshort, rfl, hfind⟩ := enter_target hdot hdots henter
        rw [LastName.of_eq_plain_iff.2 ⟨rfl, hdot, hdots⟩] at hparent
        simp only [lookup, hparent, bind, Except.bind, slot, hshort, if_false, hfind]
        rfl

end Tree

end RenderDesk.Files
