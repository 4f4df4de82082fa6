/-
  RenderDesk.Proofs.Exporting
  ───────────────────────────
  An export stays in its directory.

  Whatever a document calls itself, the name of its artifact has no character
  that a file system gives a meaning.  So it is the name of one file of the
  output directory, which is written as a whole or not at all.

  Main statements:
    * `fileName_allowed` — no character of a file name is forbidden;
    * `fileName_plain` — a file name is one component of a path;
    * `export_confined` — an export replaces that file with what was fetched, or
      changes no file.
-/
import RenderDesk.Artifact.Export
import RenderDesk.Document.Title
import RenderDesk.Proofs.AllOrNothing

namespace RenderDesk.Artifact

open RenderDesk.Files
open RenderDesk.Service
open RenderDesk.Storage
open RenderDesk.Text

/-! ## §1. Names made from titles. -/

theorem replaceForbidden_allowed {cs : List Char} {c : Char} (h : c ∈ replaceForbidden cs) :
    isForbidden c = false := by
  obtain ⟨d, -, rfl⟩ := List.mem_map.1 h
  by_cases hd : isForbidden d = true
  · rw [if_pos hd]
    decide
  · rw [if_neg hd]
    simpa using hd

theorem collapse_subset (cs : List Char) : collapse cs ⊆ cs := by
  fun_induction collapse cs with
  | case1 => exact fun _ h => h
  | case2 c => exact fun _ h => h
  | case3 c d cs hrun ih => exact fun a ha => List.mem_cons_of_mem _ (ih ha)
  | case4 c d cs hrun ih =>
    intro a ha
    rcases List.mem_cons.1 ha with rfl | ha
    · exact List.mem_cons_self
    · exact List.mem_cons_of_mem _ (ih ha)

theorem trimBoth_subset (p : Char → Bool) (cs : List Char) : trimBoth p cs ⊆ cs := by
  intro c hc
  have hinner : c ∈ (cs.dropWhile p).reverse.dropWhile p := List.mem_reverse.1 hc
  have hstart := (List.dropWhile_sublist p).mem hinner
  exact (List.dropWhile_sublist p).mem (List.mem_reverse.1 hstart)

theorem allowed_of_all {cs : List Char} (h : cs.all (fun c => !isForbidden c) = true) :
    ∀ c ∈ cs, isForbidden c = false := by
  simpa only [List.all_eq_true, Bool.not_eq_true'] using h

theorem untitled_allowed : ∀ c ∈ untitled, isForbidden c = false := allowed_of_all (by decide)

theorem cleanTitle_allowed {title : List Char} {c : Char} (h : c ∈ cleanTitle title) :
    isForbidden c = false := by
  unfold cleanTitle at h
  split at h
  · exact untitled_allowed c h
  · exact replaceForbidden_allowed (collapse_subset _ (trimBoth_subset _ _ h))

theorem fileStem_allowed {title : List Char} {c : Char} (h : c ∈ fileStem title) :
    isForbidden c = false := by
  have hcut : ∀ d ∈ takeBytes stemLimit (cleanTitle title), isForbidden d = false :=
    fun d hd => cleanTitle_allowed ((takeBytes_start _ _).subset hd)
  simp only [fileStem] at h
  split at h
  · rcases List.mem_append.1 h with h | h
    · exact hcut c h
    · rw [List.mem_singleton.1 h]
      decide
  · exact hcut c h

/-- **No character of a file name is forbidden.** -/
theorem fileName_allowed {title : Option String} {c : Char} (h : c ∈ (fileName title).toList) :
    isForbidden c = false := by
  have hending : ∀ d ∈ (".pdf" : String).toList, isForbidden d = false := allowed_of_all (by decide)
  rw [fileName, String.toList_append, String.toList_ofList] at h
  rcases List.mem_append.1 h with h | h
  · exact fileStem_allowed h
  · exact hending c h

/-- **A file name is one component of a path**, and stands for itself. -/
theorem fileName_plain (title : Option String) : PlainName (fileName title) := by
  have hlength : 4 ≤ (fileName title).toList.length := by
    rw [fileName, String.toList_append, List.length_append]
    exact Nat.le_add_left 4 _
  have hshort : ∀ name : String, name.toList.length < 4 → fileName title ≠ name := by
    intro name hname heq
    rw [heq] at hlength
    omega
  refine ⟨hshort "" (by decide), hshort "." (by decide), hshort ".." (by decide), fun hslash => ?_⟩
  have hallowed := fileName_allowed hslash
  revert hallowed
  decide

/-! ## §2. What an export does. -/

/-- What an export comes to, with the tree after it: it goes on for ever with the
download, or it fails and only directories have been made, or one file of the
output directory is what was fetched. -/
inductive Exported (dir : Path) (name : String) (t : Tree) :
    Timed (Result ByteArray) → Timed (Except ExportError Path) → Tree → Prop where
  | waiting : Exported dir name t .never .never t
  /-- Without a download nothing is made at all. -/
  | undelivered {elapsed : Duration} {f : Failure} :
      Exported dir name t (.after elapsed (.error f)) (.after elapsed (.error (.download f))) t
  | unsaved {elapsed : Duration} {bytes : ByteArray} {e : StorageError} {t' : Tree} :
      Tree.Grown dir t t' →
      Exported dir name t (.after elapsed (.ok bytes)) (.after elapsed (.error (.persist e))) t'
  | saved {elapsed : Duration} {bytes : ByteArray} {t' : Tree} :
      t'.readBytes (join dir name) = .ok bytes → Tree.Replaced dir name bytes t t' →
      Exported dir name t (.after elapsed (.ok bytes)) (.after elapsed (.ok (join dir name))) t'

/-- What was fetched is saved, or only directories are made. -/
theorem saveFetched_outcome (w : Writer) (title : Option String) (t : Tree) (bytes : ByteArray) :
    (saveFetched w title t (.ok bytes)).1 = .ok (join w.dir (fileName title))
        ∧ Tree.Replaced w.dir (fileName title) bytes t (saveFetched w title t (.ok bytes)).2
      ∨ (∃ e, (saveFetched w title t (.ok bytes)).1 = .error (.persist e))
        ∧ Tree.Grown w.dir t (saveFetched w title t (.ok bytes)).2 := by
  have houtcome := write_outcome w (fileName_plain title) bytes t
  simp only [saveFetched]
  generalize w.write (fileName title) bytes t = written at houtcome ⊢
  obtain ⟨e | path, t'⟩ := written
  · rcases houtcome with ⟨hpath, _⟩ | ⟨_, hgrown⟩
    · cases hpath
    · exact .inr ⟨⟨e, rfl⟩, hgrown⟩
  · rcases houtcome with ⟨hpath, hreplaced⟩ | ⟨⟨e, he⟩, _⟩
    · exact .inl ⟨congrArg Except.ok (Except.ok.inj hpath), hreplaced⟩
    · cases he

theorem exportArtifact_outcome (service : CompileService σ) (w : Writer) (reference : String)
    (title : Option String) (s : σ) (t : Tree) :
    Exported w.dir (fileName title) t (service.fetchArtifact reference s).1
      (exportArtifact service w reference title s t).1
      (exportArtifact service w reference title s t).2.2 := by
  unfold exportArtifact
  rcases service.fetchArtifact reference s with ⟨⟨elapsed, f | bytes⟩ | _, s'⟩
  · exact .undelivered
  · have houtcome := saveFetched_outcome w title t bytes
    dsimp only
    generalize saveFetched w title t (.ok bytes) = saved at houtcome ⊢
    obtain ⟨result, t'⟩ := saved
    rcases houtcome with ⟨hpath, hreplaced⟩ | ⟨⟨e, he⟩, hgrown⟩
    · cases hpath
      exact .saved hreplaced.readBytes hreplaced
    · cases he
      exact .unsaved hgrown
  · exact .waiting

/-- **An export is confined and faithful.**  Whatever the document calls itself,
and whatever the service answers, the file that is written is in the output
directory and has the fetched bytes, and otherwise no file is changed. -/
theorem export_confined (service : CompileService σ) (w : Writer) (reference : String)
    (text : String) (s : σ) (t : Tree) :
    PlainName (fileName (Document.title text))
      ∧ Exported w.dir (fileName (Document.title text)) t (service.fetchArtifact reference s).1
          (exportArtifact service w reference (Document.title text) s t).1
          (exportArtifact service w reference (Document.title text) s t).2.2 :=
  ⟨fileName_plain _, exportArtifact_outcome service w reference _ s t⟩

end RenderDesk.Artifact
