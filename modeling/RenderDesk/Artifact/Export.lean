/-
  RenderDesk.Artifact.Export
  ──────────────────────────
  Exporting an artifact: fetching its bytes and writing them into a file
  named after the document's title.
-/
import RenderDesk.Artifact.FileName
import RenderDesk.Service.Calls
import RenderDesk.Storage.AtomicWrite

namespace RenderDesk.Artifact

open RenderDesk.Files
open RenderDesk.Service
open RenderDesk.Storage

/-! ## §1. Failures. -/

inductive ExportError where
  | download (failure : Failure)
  | persist (error : StorageError)
  deriving Repr, DecidableEq

def ExportError.text : ExportError → String
  | .download failure => "download failed: " ++ failure.text
  | .persist error => "persist error: " ++ error.text

/-! ## §2. The export. -/

/-- Writes what was fetched. -/
def saveFetched (w : Writer) (title : Option String) (t : Tree) :
    Result ByteArray → Except ExportError Path × Tree
  | .error f => (.error (.download f), t)
  | .ok bytes =>
    match w.write (fileName title) bytes t with
    | (.ok path, t) => (.ok path, t)
    | (.error e, t) => (.error (.persist e), t)

/-- Fetches an artifact and writes it into the writer's directory. -/
def exportArtifact (service : CompileService σ) (w : Writer) (reference : String)
    (title : Option String) (s : σ) (t : Tree) : Timed (Except ExportError Path) × σ × Tree :=
  match service.fetchArtifact reference s with
  | (.never, s) => (.never, s, t)
  | (.after elapsed fetched, s) =>
    let (result, t) := saveFetched w title t fetched
    (.after elapsed result, s, t)

end RenderDesk.Artifact
