/-
  RenderDesk.Proofs.StoredText
  ────────────────────────────
  What was put into a file store is there.

  A put writes a new file, and moves it into the place that the key names.
  The place is found again because moving a file leaves every directory as it
  is, so the same path leads to the same place.

  Main statements:
    * `walk_of_directories` — a walk needs nothing but its directories;
    * `rename_lookup` — a file that was moved to a path is found there;
    * `write_writes` — a write ends in one of four ways;
    * `fileStore_get_put` — a store gives back the text that was put.
-/
import RenderDesk.Storage.FileStore

namespace RenderDesk.Files.Tree

/-! ## §1. Paths through other trees. -/

/-- Every directory of a tree is one of another. -/
def Directories (t t' : Tree) : Prop :=
  t'.working = t.working ∧ ∀ l, t.find? l = some .directory → t'.find? l = some .directory

theorem enter_of_directories {t t' : Tree} (h : Directories t t') {place next : Location}
    {name : String} (he : t.enter place name = .ok next) : t'.enter place name = .ok next := by
  unfold enter at he ⊢
  by_cases hdot : name = "."
  · rw [if_pos hdot] at he ⊢
    exact he
  · rw [if_neg hdot] at he ⊢
    by_cases hup : name = ".."
    · rw [if_pos hup] at he ⊢
      exact he
    · rw [if_neg hup] at he ⊢
      by_cases hlong : nameLimit < name.utf8ByteSize
      · rw [if_pos hlong] at he
        cases he
      · rw [if_neg hlong] at he ⊢
        cases hf : t.find? (place ++ [name]) with
        | none =>
          rw [hf] at he
          cases he
        | some node =>
          rw [hf] at he
          cases node with
          | file content => cases he
          | directory =>
            rw [h.2 _ hf]
            exact he

/-- A walk needs nothing but the directories on its way. -/
theorem walk_of_directories {t t' : Tree} (h : Directories t t') {names : List String}
    {place dir : Location} (hw : t.walk place names = .ok dir) : t'.walk place names = .ok dir := by
  induction names generalizing place with
  | nil => exact hw
  | cons name rest ih =>
    unfold walk at hw ⊢
    cases he : t.enter place name with
    | error e =>
      rw [he] at hw
      cases hw
    | ok next =>
      rw [he] at hw
      rw [enter_of_directories h he]
      exact ih hw

theorem parentOf_of_directories {t t' : Tree} (h : Directories t t') {path : Path}
    {parent : Location × LastName} (hp : t.parentOf path = .ok parent) :
    t'.parentOf path = .ok parent := by
  unfold parentOf at hp ⊢
  have hstart : t'.start path = t.start path := by rw [start, start, h.1]
  obtain ⟨_, hcheck, hp⟩ := bind_eq_ok hp
  obtain ⟨dir, hwalk, hp⟩ := bind_eq_ok hp
  rw [hcheck, hstart, walk_of_directories h hwalk]
  exact hp

/-! ## §2. A file that is moved. -/

/-- What a rename that succeeds has found, and what it leaves. -/
theorem rename_target {t t' : Tree} {source : Location} {content : ByteArray} {path : Path}
    (h : t.rename source content path = .ok t') :
    ∃ dir name, t.parentOf path = .ok (dir, .plain name) ∧ ¬nameLimit < name.utf8ByteSize
      ∧ endsInSlash path = false ∧ t.find? (dir ++ [name]) ≠ some .directory
      ∧ t' = (t.erase source).put (dir ++ [name]) (.file content) := by
  unfold rename at h
  obtain ⟨⟨dir, last⟩, hparent, h⟩ := bind_eq_ok h
  cases last with
  | special => cases h
  | plain name =>
    obtain ⟨found, hslot, h⟩ := bind_eq_ok h
    obtain ⟨hshort, rfl⟩ := slot_eq_ok hslot
    refine ⟨dir, name, hparent, hshort, ?_⟩
    by_cases hslash : endsInSlash path = true
    · simp only [hslash, if_true] at h
      cases h
    · simp only [hslash] at h
      split at h
      · cases h
      · split at h
        · cases h
        · split at h
          · cases h
          · next hdir =>
            injection h with h
            exact ⟨by simpa using hslash, hdir, h.symm⟩

theorem find?_erase_other (t : Tree) {l m : Location} (h : m ≠ l) :
    (t.erase l).find? m = t.find? m := by
  by_cases hm : m = []
  · simp [find?, hm]
  · simp only [find?, hm, if_false, erase, find?_filter_of_ne h]

/-- To move a file leaves every directory as it is. -/
theorem rename_directories {t t' : Tree} {source : Location} {content : ByteArray} {path : Path}
    (h : t.rename source content path = .ok t') (hs : t.find? source ≠ some .directory) :
    Directories t t' := by
  obtain ⟨dir, name, _, _, _, htarget, rfl⟩ := rename_target h
  refine ⟨rfl, ?_⟩
  intro l hl
  -- a directory is neither what is moved nor what is replaced
  have hlt : l ≠ dir ++ [name] := by
    intro heq
    exact htarget (heq ▸ hl)
  have hls : l ≠ source := by
    intro heq
    exact hs (heq ▸ hl)
  rw [find?_put _ (by simp), if_neg hlt, find?_erase_other _ hls]
  exact hl

/-- A file that was moved to a path is found there. -/
theorem rename_lookup {t t' : Tree} {source : Location} {content : ByteArray} {path : Path}
    (h : t.rename source content path = .ok t') (hs : t.find? source ≠ some .directory) :
    ∃ dir name, t.parentOf path = .ok (dir, .plain name)
      ∧ t'.lookup path = .ok (dir ++ [name], .file content) := by
  have hdirs := rename_directories h hs
  obtain ⟨dir, name, hparent, hshort, hslash, _, ht'⟩ := rename_target h
  have hfind : t'.find? (dir ++ [name]) = some (.file content) := by
    rw [ht', find?_put _ (by simp), if_pos rfl]
  refine ⟨dir, name, hparent, ?_⟩
  unfold lookup
  simp only [parentOf_of_directories hdirs hparent, bind, Except.bind, slot, hshort, if_false, hfind,
    hslash]
  rfl

/-! ## §3. A file that is new. -/

/-- What creating a file has found, and what it leaves. -/
theorem createNew_target {t t' : Tree} {path : Path} {place : Location}
    (h : t.createNew path = .ok (place, t')) :
    ∃ dir name, t.parentOf path = .ok (dir, .plain name) ∧ place = dir ++ [name]
      ∧ t.find? place = none ∧ t' = t.put place (.file .empty) := by
  unfold createNew at h
  obtain ⟨⟨dir, last⟩, hparent, h⟩ := bind_eq_ok h
  cases last with
  | special => cases h
  | plain name =>
    obtain ⟨⟨_, found⟩, hslot, h⟩ := bind_eq_ok h
    obtain ⟨-, hfound⟩ := slot_eq_ok hslot
    injection hfound with hplace hfind
    cases found with
    | some node => cases h
    | none =>
      dsimp only at h
      split at h
      · cases h
      · cases h
        subst hplace
        exact ⟨dir, name, hparent, rfl, hfind.symm, rfl⟩

end RenderDesk.Files.Tree

namespace RenderDesk.Storage

open RenderDesk.Files

theorem createTemporary_created {w : Writer} {t t' : Tree} {place : Location} {left : Nat}
    (h : w.createTemporary t left = .ok (place, t')) :
    ∃ n < nameAttempts, t.createNew (join w.dir (w.names n)) = .ok (place, t') := by
  induction left with
  | zero => cases h
  | succ left ih =>
    unfold Writer.createTemporary at h
    split at h
    · cases h
    · split at h
      · exact ih h
      · exact ⟨_, Nat.sub_lt (by decide) (Nat.succ_pos left), h⟩

/-- The new file is where nothing was. -/
theorem createTemporary_target {w : Writer} {t t' : Tree} {place : Location} {left : Nat}
    (h : w.createTemporary t left = .ok (place, t')) :
    place ≠ [] ∧ t.find? place = none ∧ t' = t.put place (.file .empty) := by
  obtain ⟨n, -, hn⟩ := createTemporary_created h
  obtain ⟨dir, name, -, rfl, hnone, ht'⟩ := Tree.createNew_target hn
  exact ⟨by simp, hnone, ht'⟩

/-! ## §4. What a write comes to. -/

/-- What a write can come to: its result, and the tree after it. -/
inductive Writer.Writes (w : Writer) (name : String) (content : ByteArray) (t : Tree) :
    Except StorageError Path → Tree → Prop where
  /-- The directory is not there and could not be made. -/
  | barred {e : StorageError} {t₁ : Tree} :
      ensureDirectory w.dir t w.faults = (.error e, t₁) → Writes w name content t (.error e) t₁
  | uncreated {t₁ : Tree} {e : IoError} :
      ensureDirectory w.dir t w.faults = (.ok (), t₁) →
      w.createTemporary t₁ nameAttempts = .error e →
      Writes w name content t (.error (.io e)) t₁
  /-- The new file was not filled or not moved, and is taken away. -/
  | undone {t₁ t₂ : Tree} {place : Location} {e : IoError} :
      ensureDirectory w.dir t w.faults = (.ok (), t₁) →
      w.createTemporary t₁ nameAttempts = .ok (place, t₂) →
      w.fill t₂ place (join w.dir name) content = .error e →
      Writes w name content t (.error (.io e)) (t₂.erase place)
  | done {t₁ t₂ t₃ : Tree} {place : Location} :
      ensureDirectory w.dir t w.faults = (.ok (), t₁) →
      w.createTemporary t₁ nameAttempts = .ok (place, t₂) →
      w.fill t₂ place (join w.dir name) content = .ok t₃ →
      Writes w name content t (.ok (join w.dir name)) t₃

theorem write_writes (w : Writer) (name : String) (content : ByteArray) (t : Tree) :
    w.Writes name content t (w.write name content t).1 (w.write name content t).2 := by
  unfold Writer.write
  split
  · next hdir => exact .barred hdir
  · next hdir =>
    split
    · next hnew => exact .uncreated hdir hnew
    · next hnew =>
      split
      · next hfill => exact .done hdir hnew hfill
      · next hfill => exact .undone hdir hnew hfill

/-- A step that fails ends the write, so a new file that is filled is moved. -/
theorem fill_rename {w : Writer} {t t' : Tree} {place : Location} {target : Path}
    {content : ByteArray} (h : w.fill t place target content = .ok t') :
    (t.put place (.file content)).rename place content target = .ok t' := by
  unfold Writer.fill at h
  rcases hw : w.faults.write with _ | e <;> rcases hs : w.faults.sync with _ | e <;>
    rcases hr : w.faults.rename with _ | e <;>
    simp only [hw, hs, hr, bind, Except.bind, reduceCtorEq] at h
  exact h

/-! ## §5. What is put is there. -/

/-- A new file that is filled is found under its target. -/
theorem fill_lookup {w : Writer} {t t' : Tree} {place : Location} {target : Path}
    {content : ByteArray} (hp : place ≠ []) (h : w.fill t place target content = .ok t') :
    ∃ found, t'.lookup target = .ok (found, .file content) := by
  have hfile : (t.put place (.file content)).find? place ≠ some .directory := by
    rw [Tree.find?_put _ hp, if_pos rfl]
    simp
  obtain ⟨dir, name, -, hlookup⟩ := Tree.rename_lookup (fill_rename h) hfile
  exact ⟨_, hlookup⟩

/-- A write that succeeds has filled a new file. -/
theorem write_fill {w : Writer} {name : String} {content : ByteArray} {t t' : Tree} {path : Path}
    (h : w.write name content t = (.ok path, t')) :
    ∃ place t₂, place ≠ [] ∧ w.fill t₂ place (join w.dir name) content = .ok t' := by
  have hwrites := write_writes w name content t
  rw [h] at hwrites
  cases hwrites with
  | done _ hnew hfill => exact ⟨_, _, (createTemporary_target hnew).1, hfill⟩

/-- **A store of files gives back the text that was put last.** -/
theorem fileStore_get_put {w : Writer} {key text : String} {t t' : Tree}
    (h : (fileStore w).put key text t = (.ok (), t')) :
    (fileStore w).get key t' = .ok (some text) := by
  have hwrite : isPlainKey key = true
      ∧ ∃ path, w.write key (Text.Utf8.encode text) t = (.ok path, t') := by
    simp only [fileStore, FileStore.put] at h
    split at h
    · next hk =>
      refine ⟨hk, ?_⟩
      split at h
      · next path t₁ hw =>
        injection h with _ h
        exact ⟨path, h ▸ hw⟩
      · injection h with h _
        cases h
    · injection h with h _
      cases h
  obtain ⟨hkey, path, hw⟩ := hwrite
  obtain ⟨place, t₂, hp, hfill⟩ := write_fill hw
  obtain ⟨found, hlookup⟩ := fill_lookup hp hfill
  simp only [fileStore, FileStore.get, hkey, if_true, Tree.readText, Tree.readBytes, hlookup, bind,
    Except.bind, pure, Except.pure, Text.Utf8.decode?_encode]

end RenderDesk.Storage
