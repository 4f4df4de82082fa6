/-
  RenderDesk.Proofs.Entries
  ─────────────────────────
  The files of one directory, each under its name.

  A plain name that is joined to the path of a directory is looked up where
  that path leads.  If it is short enough, nothing but what is there decides
  whether a file is found, made or replaced.

  Main statements:
    * `isPlainKey_eq_false` — which keys are refused;
    * `lookup_entry`, `createNew_entry`, `rename_entry` — one file of a directory;
    * `write_entry` — a file that can be replaced is replaced;
    * `write_fits` — and only such a file is;
    * `lookup_absent` — a directory that can be made is missing for no other reason.
-/
import Mathlib.Tactic.ByContra
import RenderDesk.Proofs.AllOrNothing

namespace RenderDesk.Storage

open RenderDesk.Files

/-! ## §1. Keys. -/

/-- A key that could be more than the name of a file. -/
def PathLike (key : String) : Prop :=
  key = "" ∨ key = "." ∨ key = ".."
    ∨ '/' ∈ key.toList ∨ '\\' ∈ key.toList ∨ Char.ofNat 0 ∈ key.toList

/-- Whether a key is short enough for a file of a directory. -/
def fits (dir : Path) (key : String) : Bool :=
  key.utf8ByteSize ≤ Tree.nameLimit && (join dir key).utf8ByteSize < Tree.pathLimit

instance (key : String) : Decidable (PathLike key) :=
  inferInstanceAs (Decidable (key = "" ∨ key = "." ∨ key = ".."
    ∨ '/' ∈ key.toList ∨ '\\' ∈ key.toList ∨ Char.ofNat 0 ∈ key.toList))

/-- Whether a key can be the name of a file of a directory: it is not like a
path, and it is short enough. -/
def accepts (dir : Path) (key : String) : Bool := !decide (PathLike key) && fits dir key

theorem isPlainKey_eq_true {key : String} :
    isPlainKey key = true ↔ PlainName key ∧ ∀ c ∈ key.toList, c ≠ '\\' ∧ c.toNat ≠ 0 := by
  simp only [isPlainKey, Bool.and_eq_true, Bool.not_eq_true', decide_eq_true_eq, List.all_eq_true,
    ne_eq]
  constructor
  · rintro ⟨⟨⟨hne, hdot⟩, hdots⟩, hall⟩
    refine ⟨⟨?_, hdot, hdots, fun hslash => ?_⟩, fun c hc => ⟨(hall c hc).1.2, (hall c hc).2⟩⟩
    · rintro rfl
      cases hne
    · exact (hall _ hslash).1.1 rfl
  · rintro ⟨⟨hne, hdot, hdots, hslash⟩, hall⟩
    refine ⟨⟨⟨by simpa [String.isEmpty_iff] using hne, hdot⟩, hdots⟩, fun c hc => ?_⟩
    refine ⟨⟨?_, (hall c hc).1⟩, (hall c hc).2⟩
    rintro rfl
    exact hslash hc

/-- **The keys that are refused** are those like a path. -/
theorem isPlainKey_eq_false {key : String} : isPlainKey key = false ↔ PathLike key := by
  rw [← Bool.not_eq_true, isPlainKey_eq_true]
  constructor
  · intro h
    by_contra hn
    simp only [PathLike, not_or] at hn
    obtain ⟨hne, hdot, hdots, hslash, hback, hnul⟩ := hn
    refine h ⟨⟨hne, hdot, hdots, hslash⟩, fun c hc => ⟨?_, fun hzero => hnul ?_⟩⟩
    · rintro rfl
      exact hback hc
    · rw [← hzero, Char.ofNat_toNat]
      exact hc
  · rintro h ⟨⟨hne, hdot, hdots, hslash⟩, hall⟩
    rcases h with h | h | h | h | h | h
    · exact hne h
    · exact hdot h
    · exact hdots h
    · exact hslash h
    · exact (hall _ h).1 rfl
    · exact (hall _ h).2 rfl

section Accepted

variable {dir : Path} {key : String}

theorem accepts_iff : accepts dir key = true ↔ ¬PathLike key ∧ fits dir key = true := by
  simp [accepts]

theorem accepts_plain (h : accepts dir key = true) : isPlainKey key = true := by
  rw [← Bool.not_eq_false, isPlainKey_eq_false]
  exact (accepts_iff.1 h).1

theorem accepts_name (h : accepts dir key = true) : PlainName key :=
  (isPlainKey_eq_true.1 (accepts_plain h)).1

theorem accepts_short (h : accepts dir key = true) : ¬Tree.nameLimit < key.utf8ByteSize := by
  have hfits := (accepts_iff.1 h).2
  simp only [fits, Bool.and_eq_true, decide_eq_true_eq] at hfits
  exact Nat.not_lt.2 hfits.1

theorem accepts_path (h : accepts dir key = true) : (join dir key).utf8ByteSize < Tree.pathLimit := by
  have hfits := (accepts_iff.1 h).2
  simp only [fits, Bool.and_eq_true, decide_eq_true_eq] at hfits
  exact hfits.2

theorem mem_join {c : Char} (h : c ∈ (join dir key).toList) :
    c ∈ dir.toList ∨ c = '/' ∨ c ∈ key.toList := by
  have hslash : ("/" : String).toList = ['/'] := rfl
  unfold join at h
  split at h
  · exact .inr (.inr h)
  · split at h
    · rcases List.mem_append.1 (String.toList_append ▸ h) with h | h
      · exact .inl h
      · exact .inr (.inr h)
    · rw [String.toList_append, String.toList_append, hslash, List.mem_append, List.mem_append,
        List.mem_singleton] at h
      rcases h with (h | h) | h
      · exact .inl h
      · exact .inr (.inl h)
      · exact .inr (.inr h)

/-- A path that was checked has no NUL. -/
theorem checkPath_ok {path : Path} (h : Tree.checkPath path = .ok ()) :
    (∀ c ∈ path.toList, c.toNat ≠ 0) ∧ path ≠ "" ∧ path.utf8ByteSize < Tree.pathLimit := by
  unfold Tree.checkPath at h
  split at h
  · cases h
  · next hnul =>
    split at h
    · cases h
    · next hempty =>
      split at h
      · cases h
      · next hlong =>
        refine ⟨fun c hc hzero => hnul ?_, ?_, Nat.not_le.1 hlong⟩
        · exact List.any_eq_true.2 ⟨c, hc, by simpa using hzero⟩
        · rintro rfl
          exact hempty rfl

theorem checkPath_join (hdir : dir = "" ∨ Tree.checkPath dir = .ok ())
    (h : accepts dir key = true) : Tree.checkPath (join dir key) = .ok () := by
  have hnul : (join dir key).toList.any (·.toNat == 0) = false := by
    rw [Bool.eq_false_iff]
    intro hany
    obtain ⟨c, hc, hzero⟩ := List.any_eq_true.1 hany
    have hzero : c.toNat = 0 := by simpa using hzero
    rcases mem_join hc with hmem | rfl | hmem
    · rcases hdir with rfl | hcheck
      · cases hmem
      · exact (checkPath_ok hcheck).1 c hmem hzero
    · cases hzero
    · exact ((isPlainKey_eq_true.1 (accepts_plain h)).2 c hmem).2 hzero
  have hempty : (join dir key).isEmpty = false := by
    rw [Bool.eq_false_iff]
    intro hempty
    have hnames : names (join dir key) = names dir ++ [key] := names_join (accepts_name h)
    rw [String.isEmpty_iff.1 hempty] at hnames
    exact List.append_ne_nil_of_right_ne_nil _ (List.cons_ne_nil _ _) hnames.symm
  unfold Tree.checkPath
  rw [hnul, hempty, if_neg (by decide), if_neg (by decide), if_neg (Nat.not_le.2 (accepts_path h))]

end Accepted

/-! ## §2. The place of the directory. -/

/-- The place of a directory that is there; the empty path stands for the
working directory. -/
inductive Located (t : Tree) (dir : Path) : Location → Prop where
  | found {place : Location} : t.lookup dir = .ok (place, .directory) → Located t dir place
  | working : dir = "" → Located t dir t.working

section Located

variable {t t' : Tree} {dir : Path} {place : Location}

theorem Located.leads (h : Located t dir place) : t.Leads dir place := by
  cases h with
  | found hlookup => exact Tree.leads_of_lookup hlookup
  | working hempty =>
    subst hempty
    rfl

theorem Located.checked (h : Located t dir place) : dir = "" ∨ Tree.checkPath dir = .ok () := by
  cases h with
  | working hempty => exact .inl hempty
  | found hlookup =>
    cases hcheck : Tree.checkPath dir with
    | ok _ => exact .inr rfl
    | error e =>
      simp only [Tree.lookup, Tree.parentOf, hcheck, bind, Except.bind] at hlookup
      cases hlookup

/-- A directory stays where it is while directories are kept. -/
theorem Located.of_directories (hd : Tree.Directories t t') (h : Located t dir place) :
    Located t' dir place := by
  rcases h.checked with hempty | hcheck
  · have hplace : place = t'.working := by
      subst hempty
      have hleads := h.leads
      injection hleads with hleads
      rw [← hleads, hd.1]
      rfl
    rw [hplace]
    exact .working hempty
  · exact .found (Tree.lookup_of_leads hcheck (h.leads.of_directories hd))

/-- Nothing is made for a directory that is there. -/
theorem Located.ready (h : Located t dir place) : ensureDirectory dir t = (.ok (), t) := by
  cases h with
  | found hlookup =>
    refine ensureDirectory_idle ?_ ?_
    · rw [Tree.contains, hlookup]
      rfl
    · rw [Tree.hasDirectory, hlookup]
  | working hempty =>
    subst hempty
    rfl

end Located

/-! ## §3. One file of the directory. -/

section Entry

variable {t t₁ : Tree} {dir : Path} {place : Location} {key : String}

theorem parentOf_entry (hl : Located t dir place) (h : accepts dir key = true) :
    t.parentOf (join dir key) = .ok (place, .plain key) :=
  Tree.parentOf_join_ok (accepts_name h) (checkPath_join hl.checked h) hl.leads

/-- A file is looked up in the place of its directory. -/
theorem lookup_entry (hl : Located t dir place) (h : accepts dir key = true) :
    t.lookup (join dir key) = match t.find? (place ++ [key]) with
      | none => .error .notFound
      | some node => .ok (place ++ [key], node) := by
  simp only [Tree.lookup, parentOf_entry hl h, bind, Except.bind, Tree.slot, accepts_short h,
    if_false, endsInSlash_join (accepts_name h)]
  cases t.find? (place ++ [key]) with
  | none => rfl
  | some node => cases node <;> rfl

/-- A file is new where nothing is. -/
theorem createNew_entry (hl : Located t dir place) (h : accepts dir key = true) :
    t.createNew (join dir key) = match t.find? (place ++ [key]) with
      | none => .ok (place ++ [key], t.put (place ++ [key]) (.file .empty))
      | some _ => .error .alreadyExists := by
  simp only [Tree.createNew, parentOf_entry hl h, bind, Except.bind, Tree.slot, accepts_short h,
    if_false, endsInSlash_join (accepts_name h)]
  cases t.find? (place ++ [key]) <;> rfl

/-- A file of the directory is moved onto another one. -/
theorem rename_entry (hl : Located t dir place) (h : accepts dir key = true)
    (hfree : t.find? (place ++ [key]) ≠ some .directory) (name : String) (content : ByteArray) :
    t.rename (place ++ [name]) content (join dir key)
      = .ok ((t.erase (place ++ [name])).put (place ++ [key]) (.file content)) := by
  -- neither file is above the other one
  have habove : ((place ++ [key]).isPrefixOf (place ++ [name])
      && decide (place ++ [key] ≠ place ++ [name])) = false := by
    by_cases hkey : key = name
    · simp [hkey]
    · rw [Bool.and_eq_false_iff, Bool.eq_false_iff]
      refine .inl fun habove => hkey ?_
      rw [List.isPrefixOf_iff_prefix, List.prefix_append_right_inj] at habove
      exact (List.cons_prefix_cons.1 habove).1
  simp only [Tree.rename, parentOf_entry hl h, bind, Except.bind, Tree.slot, accepts_short h,
    if_false, endsInSlash_join (accepts_name h)]
  rw [if_neg (by decide), habove, if_neg (by decide), if_neg hfree]
  rfl

/-- Among names that are accepted, one that is not used is found. -/
theorem createTemporary_spare {w : Writer} (hw : w.faults = {}) (hl : Located t w.dir place)
    (hnames : ∀ n < nameAttempts, accepts w.dir (w.names n) = true) {left : Nat}
    (hleft : left ≤ nameAttempts)
    (hspare : ∃ n < nameAttempts, nameAttempts - left ≤ n ∧ t.find? (place ++ [w.names n]) = none) :
    ∃ n, t.find? (place ++ [w.names n]) = none ∧ w.createTemporary t left
      = .ok (place ++ [w.names n], t.put (place ++ [w.names n]) (.file .empty)) := by
  induction left with
  | zero =>
    obtain ⟨n, hn, hle, -⟩ := hspare
    omega
  | succ left ih =>
    have hcreate := createNew_entry hl (hnames (nameAttempts - (left + 1)) (by omega))
    unfold Writer.createTemporary
    simp only [hw]
    cases hfind : t.find? (place ++ [w.names (nameAttempts - (left + 1))]) with
    | none =>
      rw [hfind] at hcreate
      exact ⟨_, hfind, by rw [hcreate]⟩
    | some node =>
      rw [hfind] at hcreate
      rw [hcreate]
      -- the name that is not used comes later
      refine ih (by omega) ?_
      obtain ⟨n, hn, hle, hnone⟩ := hspare
      have hne : n ≠ nameAttempts - (left + 1) := by
        rintro rfl
        rw [hfind] at hnone
        cases hnone
      exact ⟨n, hn, by omega, hnone⟩

/-- **A file that can be replaced is replaced.** -/
theorem write_entry {w : Writer} (hw : w.faults = {}) (hready : ensureDirectory w.dir t = (.ok (), t₁))
    (hl : Located t₁ w.dir place) (h : accepts w.dir key = true)
    (hfree : t₁.find? (place ++ [key]) ≠ some .directory)
    (hnames : ∀ n < nameAttempts, accepts w.dir (w.names n) = true)
    (hspare : ∃ n < nameAttempts, t₁.find? (place ++ [w.names n]) = none) (content : ByteArray) :
    (w.write key content t).1 = .ok (join w.dir key) := by
  obtain ⟨n, hnone, hnew⟩ := createTemporary_spare hw hl hnames (Nat.le_refl _) (by simpa using hspare)
  have hplace : place ++ [w.names n] ≠ [] := by simp
  -- the new file with its content, which changes no directory
  have hfile : t₁.find? (place ++ [w.names n]) ≠ some .directory := by simp [hnone]
  have hdirs := Tree.put_directories hplace hfile (.file content)
  have hstill : (t₁.put (place ++ [w.names n]) (.file content)).find? (place ++ [key])
      ≠ some .directory := by
    rw [Tree.find?_put _ hplace]
    split
    · simp
    · exact hfree
  have hmoved := rename_entry (hl.of_directories hdirs) h hstill (w.names n) content
  have hfill : w.fill (t₁.put (place ++ [w.names n]) (.file .empty)) (place ++ [w.names n])
      (join w.dir key) content
      = .ok (((t₁.put (place ++ [w.names n]) (.file content)).erase (place ++ [w.names n])).put
          (place ++ [key]) (.file content)) := by
    simp only [Writer.fill, hw, Tree.put_again, hmoved]
  unfold Writer.write
  rw [hw, hready]
  simp only [hnew, hfill]

/-- **What was written had a name that is short enough.** -/
theorem write_fits {w : Writer} {content : ByteArray} {path : Path} {t' : Tree}
    (hkey : PlainName key) (h : w.write key content t = (.ok path, t')) : fits w.dir key = true := by
  obtain ⟨source, t₂, -, hfill⟩ := write_fill h
  obtain ⟨parent, name, hparent, hshort, -⟩ := Tree.rename_target (fill_rename hfill)
  obtain ⟨-, hlast⟩ := Tree.leads_of_parentOf hkey hparent
  cases hlast
  have hpath := (checkPath_ok (Tree.parentOf_plain hparent).1).2.2
  simp only [fits, Bool.and_eq_true, decide_eq_true_eq]
  exact ⟨Nat.not_lt.1 hshort, hpath⟩

end Entry

/-! ## §4. A directory that is not there. -/

section Absent

variable {t : Tree} {dir : Path}

/-- A path that cannot be handed to the system names nothing. -/
theorem contains_unchecked {e : IoError} (h : Tree.checkPath dir = .error e) :
    t.contains dir = false ∧ t.makeDirectory dir = .error e := by
  refine ⟨?_, ?_⟩
  · simp only [Tree.contains, Tree.lookup, Tree.parentOf, h, bind, Except.bind]
    rfl
  · simp only [Tree.makeDirectory, Tree.parentOf, h, bind, Except.bind]

theorem hasDirectory_contains (h : t.contains dir = false) : t.hasDirectory dir = false := by
  unfold Tree.contains at h
  unfold Tree.hasDirectory
  cases hl : t.lookup dir with
  | error e => rfl
  | ok found =>
    rw [hl] at h
    cases h

/-- What is made sure of and is not there is made. -/
theorem ensureDirectory_makes {t₁ : Tree} (hno : t.contains dir = false)
    (h : ensureDirectory dir t = (.ok (), t₁)) : t.makeDirectories dir = (.ok (), t₁) := by
  unfold ensureDirectory at h
  rw [hno, if_neg (by decide)] at h
  split at h
  · next heq =>
    injection h with _ h
    rw [← h]
    exact heq
  · injection h with h _
    cases h

/-- A directory is made only where it or one above it is missing. -/
theorem makeAfter_ok {path : Path} {above : Unit → Except IoError Unit × Tree}
    (h : (t.makeAfter [] path above).1 = .ok ()) (hno : t.hasDirectory path = false) :
    (∃ t', t.makeDirectory path = .ok t') ∨ t.makeDirectory path = .error .notFound := by
  unfold Tree.makeAfter at h
  cases hmade : t.makeDirectory path with
  | ok t' => exact .inl ⟨t', rfl⟩
  | error e =>
    have hallowed : t.makeAllowed [] path = .error e := hmade
    rw [hallowed] at h
    by_cases he : e = .notFound
    · exact .inr (by rw [he])
    · split at h
      · next heq => cases heq
      · next heq =>
        injection heq with heq
        exact absurd heq he
      · rw [hno] at h
        cases h

/-- Of the paths that cannot be handed over, only the empty one is not found. -/
theorem checkPath_notFound (h : Tree.checkPath dir = .error .notFound) : dir = "" := by
  unfold Tree.checkPath at h
  split at h
  · cases h
  · split at h
    · next hempty => exact String.isEmpty_iff.1 hempty
    · split at h <;> cases h

/-- A directory cannot be made because one above it is missing. -/
theorem makeDirectory_notFound (h : t.makeDirectory dir = .error .notFound) (hdir : dir ≠ "") :
    Tree.checkPath dir = .ok () ∧ t.walk (t.start dir) (names dir) = .error .notFound := by
  cases hcheck : Tree.checkPath dir with
  | error e =>
    obtain ⟨-, hmade⟩ := contains_unchecked (t := t) hcheck
    rw [hmade] at h
    cases h
    exact absurd (checkPath_notFound hcheck) hdir
  | ok _ =>
    refine ⟨rfl, ?_⟩
    simp only [Tree.makeDirectory, Tree.parentOf, hcheck, bind, Except.bind] at h
    obtain ⟨rest, hrest⟩ := List.dropLast_prefix (names dir)
    cases hw : t.walk (t.start dir) (names dir).dropLast with
    | error e =>
      rw [hw] at h
      injection h with h
      rw [← hrest, Tree.walk_append, hw, h]
      rfl
    | ok parent =>
      rw [hw] at h
      simp only [pure, Except.pure] at h
      split at h
      · cases h
      · simp only [Tree.slot] at h
        split at h
        · next hslot =>
          split at hslot
          · cases hslot
            cases h
          · cases hslot
        · split at h <;> cases h

/-- A directory is tried first, and those above it after that. -/
theorem makeDirectories_after (hdir : dir ≠ "") (t : Tree) :
    ∃ above, t.makeDirectories dir = t.makeAfter [] dir above := by
  have hempty : dir.isEmpty = false := by
    rw [Bool.eq_false_iff]
    exact fun hempty => hdir (String.isEmpty_iff.1 hempty)
  unfold Tree.makeDirectories
  rw [hempty, if_neg (by decide)]
  cases Files.ancestors dir <;> exact ⟨_, rfl⟩

/-- **A directory that can be made** is missing, and that is all that is wrong. -/
theorem walk_absent {t₁ : Tree} (hdir : dir ≠ "") (hno : t.contains dir = false)
    (hmade : t.makeDirectories dir = (.ok (), t₁)) :
    Tree.checkPath dir = .ok () ∧ t.walk (t.start dir) (names dir) = .error .notFound := by
  obtain ⟨above, hafter⟩ := makeDirectories_after hdir t
  rw [hafter] at hmade
  rcases makeAfter_ok (congrArg Prod.fst hmade) (hasDirectory_contains hno) with ⟨t', hone⟩ | hone
  · obtain ⟨parent, name, hparent, hshort, hnone, -⟩ := Tree.makeDirectory_target hone
    obtain ⟨hcheck, hw, hnames, hdot, hdots⟩ := Tree.parentOf_plain hparent
    refine ⟨hcheck, ?_⟩
    rw [hnames, Tree.walk_append, hw]
    show t.walk parent [name] = _
    simp only [Tree.walk_single, Tree.enter, hdot, hdots, hshort, if_false, hnone]
  · exact makeDirectory_notFound hone hdir

/-- Nothing is found in a directory that can still be made. -/
theorem lookup_absent {t₁ : Tree} {key : String} (hdir : dir ≠ "") (hno : t.contains dir = false)
    (hmade : t.makeDirectories dir = (.ok (), t₁)) (h : accepts dir key = true) :
    t.lookup (join dir key) = .error .notFound := by
  obtain ⟨hcheck, hwalk⟩ := walk_absent hdir hno hmade
  have hparent : t.parentOf (join dir key) = .error .notFound := by
    rw [Tree.parentOf_join (accepts_name h), checkPath_join (.inr hcheck) h, hwalk]
    rfl
  simp only [Tree.lookup, hparent, bind, Except.bind]

end Absent

end RenderDesk.Storage
