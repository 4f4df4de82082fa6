/-
  RenderDesk.Storage.Committer
  ────────────────────────────
  The part of saving that decides what is written.

  A slot holds the latest snapshot of the document.  A commit takes it out
  and writes it, unless that revision or a later one was written before; a
  commit that expects a revision leaves any other in the slot.

  Main statement: `commit_unexpected` — a commit that expects another revision
  does nothing.
-/
import RenderDesk.Session.State
import RenderDesk.Storage.Store

namespace RenderDesk.Storage

open RenderDesk.Session (Revision)

/-! ## §1. Snapshots and events. -/

/-- A revision of the document, with its text. -/
structure Snapshot where
  revision : Revision
  content : String
  deriving Repr, DecidableEq

/-- What a write comes to. -/
inductive SaveEvent where
  | saved (revision : Revision)
  | saveFailed (revision : Revision) (message : String)
  deriving Repr, DecidableEq

/-- Writes a snapshot. -/
def write (store : Store σ) (snapshot : Snapshot) (s : σ) : SaveEvent × σ :=
  match store.put documentKey snapshot.content s with
  | (.ok (), s) => (.saved snapshot.revision, s)
  | (.error e, s) => (.saveFailed snapshot.revision e.text, s)

/-! ## §2. Commits. -/

structure Committer where
  /-- The snapshot that waits to be written. -/
  latest : Option Snapshot := none
  /-- The last revision that was written. -/
  committed : Option Revision := none
  deriving Repr, DecidableEq, Inhabited

namespace Committer

/-- Puts a snapshot in the slot, in place of any other. -/
def replace (c : Committer) (snapshot : Snapshot) : Committer :=
  { c with latest := some snapshot }

/-- Whether a snapshot is in the slot. -/
def hasPending (c : Committer) : Bool := c.latest.isSome

/-- The snapshot in the slot, if there is one and it is the expected one. -/
def expected? (c : Committer) (expected : Option Revision) : Option Snapshot :=
  match c.latest, expected with
  | some snapshot, some revision => if snapshot.revision = revision then some snapshot else none
  | slot, none => slot
  | none, _ => none

/-- Whether a revision is not past the last one that was written. -/
def superseded (c : Committer) (revision : Revision) : Bool :=
  match c.committed with
  | some last => revision ≤ last
  | none => false

/-- Takes the expected snapshot, or any, out of the slot and writes it. -/
def commit (c : Committer) (store : Store σ) (expected : Option Revision) (s : σ) :
    Committer × List SaveEvent × σ :=
  match c.expected? expected with
  | none => (c, [], s)
  | some snapshot =>
    if c.superseded snapshot.revision then ({ c with latest := none }, [], s)
    else
      match write store snapshot s with
      | (.saved revision, s) =>
        ({ latest := none, committed := some revision }, [.saved revision], s)
      | (event, s) => ({ c with latest := none }, [event], s)

/-! ## §3. Laws. -/

theorem commit_unexpected {c : Committer} {revision : Revision} (store : Store σ) (s : σ)
    (h : ∀ snapshot, c.latest = some snapshot → snapshot.revision ≠ revision) :
    c.commit store (some revision) s = (c, [], s) := by
  have he : c.expected? (some revision) = none := by
    unfold expected?
    cases hl : c.latest with
    | none => rfl
    | some snapshot => simp [h snapshot hl]
  simp [commit, he]

end Committer

end RenderDesk.Storage
