/-
  RenderDesk.Storage.Store
  ────────────────────────
  Durable storage of texts under keys, how it fails, and how a session gets
  its first text from it.

  The state `σ` is whatever keeps the texts.

  Main statement: `initialText_restored_iff` — the stored text is used exactly
  when it can be read.
-/
import RenderDesk.Files.IoError
import RenderDesk.Text.Quoted

namespace RenderDesk.Storage

/-! ## §1. Failures. -/

inductive StorageError where
  /-- The directory is not there and cannot be made. -/
  | directory (reason : String)
  /-- The key cannot be the name of a file. -/
  | invalidKey (key : String)
  | io (error : Files.IoError)
  deriving Repr, DecidableEq

def StorageError.text : StorageError → String
  | .directory reason => "directory missing or not writable: " ++ reason
  | .invalidKey key => "invalid storage key " ++ Text.quoted key
  | .io error => "io error: " ++ error.text

/-! ## §2. Stores. -/

/-- Storage of texts under keys. -/
structure Store (σ : Type) where
  /-- The text under a key, `none` if there is none. -/
  get : String → σ → Except StorageError (Option String)
  /-- Puts a text under a key, in place of any other. -/
  put : String → String → σ → Except StorageError Unit × σ

/-- The key of the document. -/
def documentKey : String := "document.md"

/-! ## §3. The first text of a session. -/

/-- The stored document, else a fallback, and whether it was the stored one. -/
def Store.initialText (store : Store σ) (s : σ) (fallback : String) : String × Bool :=
  match store.get documentKey s with
  | .ok (some text) => (text, true)
  | _ => (fallback, false)

theorem initialText_restored_iff {store : Store σ} {s : σ} {fallback text : String} :
    store.initialText s fallback = (text, true) ↔ store.get documentKey s = .ok (some text) := by
  unfold Store.initialText
  split
  · next stored h => simp [h]
  · next h =>
    constructor
    · simp
    · exact fun he => absurd he (h text)

/-! ## §4. A store in memory. -/

/-- A store that keeps its texts in memory, where nothing fails. -/
def memoryStore : Store (List (String × String)) where
  get key s := .ok (s.lookup key)
  put key value s := (.ok (), (key, value) :: s)

end RenderDesk.Storage
