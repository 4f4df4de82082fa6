/-
  RenderDesk.Storage.AtomicWrite
  ──────────────────────────────
  Writing a file so that it is either all there or not at all.

  The content goes into a new file beside the target, and that file is then
  moved into the target's place.  When a step fails, the new file is removed.

  Main statement: `ensureDirectory_idle` — a directory that is there is left as
  it is.
-/
import RenderDesk.Files.Operations
import RenderDesk.Storage.Store

namespace RenderDesk.Storage

open RenderDesk.Files

/-! ## §1. What can go wrong. -/

/-- What goes wrong at the steps of a write, beside what the tree itself
forbids. -/
structure Faults where
  /-- The directory is there, but cannot be looked at. -/
  look : Option IoError := none
  directories : Tree.Refusals := []
  create : Option IoError := none
  write : Option IoError := none
  sync : Option IoError := none
  rename : Option IoError := none
  deriving Repr, DecidableEq, Inhabited

/-! ## §2. The directory. -/

/-- Makes sure that a directory is there. -/
def ensureDirectory (dir : Path) (t : Tree) (faults : Faults := {}) :
    Except StorageError Unit × Tree :=
  if t.contains dir then
    match faults.look with
    | some e => (.error (.directory e.text), t)
    | none =>
      (if t.hasDirectory dir then .ok () else .error (.directory "path is not a directory"), t)
  else
    match t.makeDirectories dir faults.directories with
    | (.ok (), t) => (.ok (), t)
    | (.error e, t) => (.error (.directory e.text), t)

/-! ## §3. The new file. -/

/-- The names tried for the new file, one after another. -/
def temporaryName (n : Nat) : String := ".tmp" ++ toString n

/-- How many names are tried. -/
def nameAttempts : Nat := 65536

structure Writer where
  /-- The directory of the files. -/
  dir : Path
  /-- The names tried for a new file. -/
  names : Nat → String := temporaryName
  faults : Faults := {}

namespace Writer

/-- Creates the new file under the first name that is free. -/
def createTemporary (w : Writer) (t : Tree) : Nat → Except IoError (Location × Tree)
  | 0 => .error .alreadyExists
  | left + 1 =>
    match w.faults.create with
    | some e => .error e
    | none =>
      match t.createNew (join w.dir (w.names (nameAttempts - (left + 1)))) with
      | .error .alreadyExists => w.createTemporary t left
      | other => other

/-- The steps from the new file, which is at `place`, to the target. -/
def fill (w : Writer) (t : Tree) (place : Location) (target : Path) (content : ByteArray) :
    Except IoError Tree := do
  if let some e := w.faults.write then .error e
  if let some e := w.faults.sync then .error e
  if let some e := w.faults.rename then .error e
  (t.put place (.file content)).rename place content target

/-! ## §4. The write. -/

/-- Writes a file of the directory. -/
def write (w : Writer) (name : String) (content : ByteArray) (t : Tree) :
    Except StorageError Path × Tree :=
  match ensureDirectory w.dir t w.faults with
  | (.error e, t) => (.error e, t)
  | (.ok (), t) =>
    match w.createTemporary t nameAttempts with
    | .error e => (.error (.io e), t)
    | .ok (place, t) =>
      match w.fill t place (join w.dir name) content with
      | .ok t => (.ok (join w.dir name), t)
      | .error e => (.error (.io e), t.erase place)

end Writer

/-! ## §5. Laws. -/

theorem ensureDirectory_idle {dir : Path} {t : Tree} (hc : t.contains dir = true)
    (hd : t.hasDirectory dir = true) : ensureDirectory dir t = (.ok (), t) := by
  simp [ensureDirectory, hc, hd]

end RenderDesk.Storage
