/-
  RenderDesk.Storage.FileStore
  ────────────────────────────
  A store with one file for each key, in one directory.

  Only keys that are the name of a file of that directory are accepted.

  Main statements:
    * `put_invalid`, `get_invalid` — any other key changes and reads nothing.
-/
import RenderDesk.Storage.AtomicWrite

namespace RenderDesk.Storage

open RenderDesk.Files

/-! ## §1. Keys. -/

/-- Whether a key is the name of a file, on every system. -/
def isPlainKey (key : String) : Bool :=
  !key.isEmpty && key ≠ "." && key ≠ ".."
    && key.toList.all fun c => c ≠ '/' && c ≠ '\\' && c.toNat ≠ 0

/-! ## §2. The store. -/

namespace FileStore

/-- The text under a key. -/
def get (w : Writer) (key : String) (t : Tree) : Except StorageError (Option String) :=
  if isPlainKey key then
    match t.readText (join w.dir key) with
    | .ok text => .ok (some text)
    | .error .notFound => .ok none
    | .error e => .error (.io e)
  else .error (.invalidKey key)

/-- Puts a text under a key. -/
def put (w : Writer) (key value : String) (t : Tree) : Except StorageError Unit × Tree :=
  if isPlainKey key then
    match w.write key (Text.Utf8.encode value) t with
    | (.ok _, t) => (.ok (), t)
    | (.error e, t) => (.error e, t)
  else (.error (.invalidKey key), t)

end FileStore

/-- The store of the files that a writer writes. -/
def fileStore (w : Writer) : Store Tree where
  get := FileStore.get w
  put := FileStore.put w

/-! ## §3. Laws. -/

theorem put_invalid {key : String} (h : isPlainKey key = false) (w : Writer) (value : String)
    (t : Tree) : (fileStore w).put key value t = (.error (.invalidKey key), t) := by
  simp [fileStore, FileStore.put, h]

theorem get_invalid {key : String} (h : isPlainKey key = false) (w : Writer) (t : Tree) :
    (fileStore w).get key t = .error (.invalidKey key) := by
  simp [fileStore, FileStore.get, h]

end RenderDesk.Storage
