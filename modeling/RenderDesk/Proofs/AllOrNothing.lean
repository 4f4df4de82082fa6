/-
  RenderDesk.Proofs.AllOrNothing
  ──────────────────────────────
  A file is written as a whole, or nothing is.

  The content goes into a file of its own, which then takes the place of the
  target.  Whatever fails before, the target has not been touched, and the new
  file is taken away; of a write that fails at most directories are left.

  Main statements:
    * `put_erase` — a file that is taken away again leaves no trace;
    * `fill_swapped` — moving the new file changes the target only;
    * `write_outcome` — a write replaces the target or undoes itself;
    * `write_all_or_nothing` — both, for every write and every fault.
-/
import RenderDesk.Proofs.Growing

namespace RenderDesk.Files.Tree

/-! ## §1. Files that come and go. -/

/-- What was put where nothing was, and is taken away, leaves no trace. -/
theorem put_erase {t : Tree} {l : Location} (hl : l ≠ []) (hnone : t.find? l = none) (node : Node)
    (m : Location) : ((t.put l node).erase l).find? m = t.find? m := by
  rw [find?_erase _ hl, find?_put t hl]
  by_cases hm : m = l
  · rw [if_pos hm, hm, hnone]
  · rw [if_neg hm, if_neg hm]

/-- What is put last is there. -/
theorem put_again (t : Tree) (l : Location) (node other : Node) :
    (t.put l node).put l other = t.put l other := by
  simp [put, erase, List.filter_append, List.filter_filter]

/-- One tree has come from another by replacing one file of a directory. -/
structure Swapped (dir : Path) (name : String) (content : ByteArray) (t t' : Tree) : Prop where
  working : t'.working = t.working
  target : ∃ place, t'.Leads dir place
    ∧ t'.lookup (join dir name) = .ok (place ++ [name], .file content)
    ∧ t.find? (place ++ [name]) ≠ some .directory
    ∧ ∀ l, l ≠ place ++ [name] → t'.find? l = t.find? l

theorem Swapped.directories {dir : Path} {name : String} {content : ByteArray} {t t' : Tree}
    (h : Swapped dir name content t t') : Directories t t' := by
  obtain ⟨place, _, _, htarget, hframe⟩ := h.target
  refine ⟨h.working, fun l hl => ?_⟩
  have hlt : l ≠ place ++ [name] := by
    rintro rfl
    exact htarget hl
  rw [hframe l hlt]
  exact hl

/-- One file of a directory has been replaced; all else is as it was, but for
directories made on the way. -/
structure Replaced (dir : Path) (name : String) (content : ByteArray) (t t' : Tree) : Prop where
  working : t'.working = t.working
  target : ∃ place, t'.Leads dir place
    ∧ t'.lookup (join dir name) = .ok (place ++ [name], .file content)
    ∧ t.find? (place ++ [name]) ≠ some .directory
    ∧ ∀ l, l ≠ place ++ [name] → t'.find? l = t.find? l
      ∨ t.find? l = none ∧ t'.find? l = some .directory ∧ t'.OnWay dir l

/-- The content is read back. -/
theorem Replaced.readBytes {dir : Path} {name : String} {content : ByteArray} {t t' : Tree}
    (h : Replaced dir name content t t') : t'.readBytes (join dir name) = .ok content := by
  obtain ⟨place, _, hlookup, _⟩ := h.target
  simp only [Tree.readBytes, hlookup, bind, Except.bind]
  rfl

/-- Directories are made, and then a file of the last one is replaced. -/
theorem Grown.replaced {dir : Path} {name : String} {content : ByteArray} {t t₁ t' : Tree}
    (h : Grown dir t t₁) (hs : Swapped dir name content t₁ t') : Replaced dir name content t t' := by
  obtain ⟨place, hleads, hlookup, htarget, hframe⟩ := hs.target
  refine ⟨hs.working.trans h.working, place, hleads, hlookup, ?_, ?_⟩
  · intro hdirectory
    exact htarget (h.kept hdirectory)
  · intro l hl
    rw [hframe l hl]
    rcases h.find? l with hsame | ⟨hnone, hmade, hway⟩
    · exact .inl hsame
    · exact .inr ⟨hnone, hmade, hway.of_directories hs.directories⟩

end RenderDesk.Files.Tree

namespace RenderDesk.Storage

open RenderDesk.Files

/-! ## §2. The new file and the target. -/

section Target

variable {w : Writer} {t t₂ t' : Tree} {place : Location} {name : String} {content : ByteArray}

/-- A new file that is not moved leaves a tree as it was. -/
theorem undone_find? {left : Nat} (h : w.createTemporary t left = .ok (place, t₂)) :
    (t₂.erase place).working = t.working ∧ ∀ l, (t₂.erase place).find? l = t.find? l := by
  obtain ⟨hplace, hnone, rfl⟩ := createTemporary_target h
  exact ⟨rfl, Tree.put_erase hplace hnone _⟩

/-- **A new file that is moved** changes the target, and nothing else. -/
theorem fill_swapped {left : Nat} (hname : PlainName name)
    (hnew : w.createTemporary t left = .ok (place, t₂))
    (hfill : w.fill t₂ place (join w.dir name) content = .ok t') :
    Tree.Swapped w.dir name content t t' := by
  obtain ⟨hplace, hnone, rfl⟩ := createTemporary_target hnew
  have hrename := fill_rename hfill
  rw [Tree.put_again] at hrename
  -- before the move, the new file is all that is new
  have hfind := fun l => Tree.find?_put t hplace l (.file content)
  have hsource : (t.put place (.file content)).find? place ≠ some .directory := by simp [hfind]
  have hafter := Tree.rename_directories hrename hsource
  obtain ⟨dir, last, hparent, hlookup⟩ := Tree.rename_lookup hrename hsource
  obtain ⟨_, _, hparent', _, _, htarget, rfl⟩ := Tree.rename_target hrename
  obtain ⟨hleads, hlast⟩ := Tree.leads_of_parentOf hname hparent
  rw [hparent] at hparent'
  cases hparent'
  cases hlast
  refine ⟨hafter.1, dir, hleads.of_directories hafter, hlookup, ?_, ?_⟩
  · intro hdirectory
    have hne : dir ++ [name] ≠ place := by
      rintro rfl
      rw [hnone] at hdirectory
      cases hdirectory
    exact htarget (by rw [hfind, if_neg hne, hdirectory])
  · intro l hl
    rw [Tree.find?_put _ (by simp), if_neg hl, Tree.find?_erase _ hplace, hfind]
    split
    · next hlp => rw [hlp, hnone]
    · rfl

end Target

/-! ## §3. Every write. -/

/-- Once its directory is there, a write replaces the target or undoes itself. -/
theorem write_after {w : Writer} {name : String} (hname : PlainName name) (content : ByteArray)
    {t t₁ : Tree} (h : ensureDirectory w.dir t w.faults = (.ok (), t₁)) :
    ((w.write name content t).1 = .ok (join w.dir name)
        ∧ Tree.Swapped w.dir name content t₁ (w.write name content t).2)
      ∨ (∃ e, (w.write name content t).1 = .error e)
        ∧ (w.write name content t).2.working = t₁.working
        ∧ ∀ l, (w.write name content t).2.find? l = t₁.find? l := by
  have hwrites := write_writes w name content t
  generalize w.write name content t = r at hwrites ⊢
  obtain ⟨result, t'⟩ := r
  cases hwrites with
  | barred hdir =>
    rw [h] at hdir
    cases hdir
  | uncreated hdir hnew =>
    rw [h] at hdir
    cases hdir
    exact .inr ⟨⟨_, rfl⟩, rfl, fun _ => rfl⟩
  | undone hdir hnew hfill =>
    rw [h] at hdir
    cases hdir
    exact .inr ⟨⟨_, rfl⟩, undone_find? hnew⟩
  | done hdir hnew hfill =>
    rw [h] at hdir
    cases hdir
    exact .inl ⟨rfl, fill_swapped hname hnew hfill⟩

/-- A write replaces the target, or undoes itself. -/
theorem write_outcome (w : Writer) {name : String} (hname : PlainName name) (content : ByteArray)
    (t : Tree) :
    ((w.write name content t).1 = .ok (join w.dir name)
        ∧ Tree.Replaced w.dir name content t (w.write name content t).2)
      ∨ (∃ e, (w.write name content t).1 = .error e)
        ∧ Tree.Grown w.dir t (w.write name content t).2 := by
  have hgrown := ensureDirectory_grown w.dir t w.faults
  rcases hdir : ensureDirectory w.dir t w.faults with ⟨e | _, t₁⟩
  · rw [hdir] at hgrown
    have hbarred : w.write name content t = (.error e, t₁) := by
      simp only [Writer.write, hdir]
    rw [hbarred]
    exact .inr ⟨⟨e, rfl⟩, hgrown⟩
  · rw [hdir] at hgrown
    rcases write_after hname content hdir with ⟨hpath, hswapped⟩ | ⟨herror, hworking, hfind⟩
    · exact .inl ⟨hpath, hgrown.replaced hswapped⟩
    · exact .inr ⟨herror, hgrown.congr hworking hfind⟩

/-- **A write is all or nothing.**  If it succeeds, its path is the target's, the
target is in the directory and has the content, and every other place is as it
was, so that no new file is left beside it.  If it fails, at whichever step, every
place is as it was.  In both cases directories may have been made, on the way to
the directory only. -/
theorem write_all_or_nothing (w : Writer) {name : String} (hname : PlainName name)
    (content : ByteArray) (t : Tree) :
    (∀ path t', w.write name content t = (.ok path, t') →
      path = join w.dir name ∧ t'.readBytes path = .ok content
        ∧ Tree.Replaced w.dir name content t t')
    ∧ ∀ e t', w.write name content t = (.error e, t') → Tree.Grown w.dir t t' := by
  have houtcome := write_outcome w hname content t
  refine ⟨fun path t' h => ?_, fun e t' h => ?_⟩
  · rw [h] at houtcome
    rcases houtcome with ⟨hpath, hreplaced⟩ | ⟨⟨e, he⟩, _⟩
    · cases hpath
      exact ⟨rfl, hreplaced.readBytes, hreplaced⟩
    · cases he
  · rw [h] at houtcome
    rcases houtcome with ⟨hpath, _⟩ | ⟨_, hgrown⟩
    · cases hpath
    · exact hgrown

/-- A directory with one file in it. -/
def oneFile : Tree where
  nodes := [(["d"], .directory), (["d", "n"], .file "old".toUTF8)]

/-- Writes that file. -/
def fileWriter : Writer := { dir := "d" }

/-- Writes below the directory of the file, but cannot move what it has written. -/
def stuckWriter : Writer := { dir := "d/e", faults := { rename := some .busy } }

/-- The file is replaced by one writer; of the other one a directory is left. -/
theorem one_file_written :
    PlainName "n"
      ∧ (fileWriter.write "n" "new".toUTF8 oneFile).1.toOption = some "d/n"
      ∧ (fileWriter.write "n" "new".toUTF8 oneFile).2.readBytes "d/n" = .ok "new".toUTF8
      ∧ (stuckWriter.write "n" "new".toUTF8 oneFile).1.toOption = none
      ∧ Tree.Grown "d/e" oneFile (stuckWriter.write "n" "new".toUTF8 oneFile).2 := by
  have hname : PlainName "n" := ⟨by decide, by decide, by decide, by decide⟩
  have hdone : (fileWriter.write "n" "new".toUTF8 oneFile).1.toOption = some "d/n" := by
    decide +kernel
  have hstuck : (stuckWriter.write "n" "new".toUTF8 oneFile).1.toOption = none := by
    decide +kernel
  obtain ⟨hwritten, -⟩ := write_all_or_nothing fileWriter hname "new".toUTF8 oneFile
  obtain ⟨-, hundone⟩ := write_all_or_nothing stuckWriter hname "new".toUTF8 oneFile
  refine ⟨hname, hdone, ?_, hstuck, ?_⟩
  · rcases hw : fileWriter.write "n" "new".toUTF8 oneFile with ⟨e | path, t'⟩
    · rw [hw] at hdone
      cases hdone
    · rw [hw] at hdone
      obtain rfl : path = "d/n" := Option.some.inj hdone
      exact (hwritten _ _ hw).2.1
  · rcases hw : stuckWriter.write "n" "new".toUTF8 oneFile with ⟨e | path, t'⟩
    · exact hundone _ _ hw
    · rw [hw] at hstuck
      cases hstuck

end RenderDesk.Storage
