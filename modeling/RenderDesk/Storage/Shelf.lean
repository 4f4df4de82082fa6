/-
  RenderDesk.Storage.Shelf
  ────────────────────────
  A store whose puts fail as they are told to, and that remembers all of them.

  A writer in front of a shelf shows what it asks of a store: which texts, in
  which order and how often, whichever of the puts fail.

  Main statements:
    * `commit_write` — a commit is a write, or nothing;
    * `write_shelf` — a write is one put, and its event says what the put came
      to;
    * `Lasting.asked` — what lies on the shelf is what was put last.
-/
import RenderDesk.Storage.Committer

namespace RenderDesk.Storage

open RenderDesk.Session (Revision)

/-! ## §1. Shelves. -/

/-- A put that a store was asked for. -/
structure Put where
  key : String
  text : String
  /-- Why it failed, if it did. -/
  failure : Option StorageError
  deriving Repr, DecidableEq

structure Shelf where
  texts : List (String × String) := []
  /-- All puts so far, failed or not, the oldest first. -/
  puts : List Put := []
  deriving Repr, DecidableEq

namespace Shelf

/-- The shelf after one more put; `fails n` tells how the put fails that has `n`
others before it, if it does. -/
def asked (fails : Nat → Option StorageError) (s : Shelf) (key text : String) : Shelf where
  texts := if fails s.puts.length = none then (key, text) :: s.texts else s.texts
  puts := s.puts ++ [⟨key, text, fails s.puts.length⟩]

def store (fails : Nat → Option StorageError) : Store Shelf where
  get key s := .ok (s.texts.lookup key)
  put key text s :=
    (match fails s.puts.length with
      | none => .ok ()
      | some e => .error e,
      s.asked fails key text)

end Shelf

/-! ## §2. Writes to a shelf. -/

/-- The event of a write of a revision that has failed, or not. -/
def SaveEvent.of (revision : Revision) : Option StorageError → SaveEvent
  | none => .saved revision
  | some e => .saveFailed revision e.text

def SaveEvent.revision : SaveEvent → Revision
  | .saved revision | .saveFailed revision _ => revision

/-- The revision that an event reports as written. -/
def SaveEvent.saved? : SaveEvent → Option Revision
  | .saved revision => some revision
  | .saveFailed _ _ => none

@[simp] theorem SaveEvent.revision_of (revision : Revision) (failure : Option StorageError) :
    (SaveEvent.of revision failure).revision = revision := by
  cases failure <;> rfl

theorem SaveEvent.saved?_of (revision : Revision) (failure : Option StorageError) :
    (SaveEvent.of revision failure).saved? = if failure = none then some revision else none := by
  cases failure <;> rfl

/-- What a write reports as written is the revision of its snapshot. -/
theorem saved?_write {store : Store σ} {p : Snapshot} {s : σ} {revision : Revision}
    (h : (write store p s).1.saved? = some revision) : revision = p.revision := by
  unfold write at h
  split at h
  · exact (Option.some.inj h).symm
  · cases h

/-- A commit that finds what it may write writes it, and remembers what the
write reports as written. -/
theorem commit_write {c : Committer} {expected : Option Revision} {p : Snapshot}
    (hfound : c.expected? expected = some p) (hnew : c.superseded p.revision = false)
    (store : Store σ) (s : σ) :
    c.commit store expected s
      = (⟨none, (write store p s).1.saved?.or c.committed⟩, [(write store p s).1],
          (write store p s).2) := by
  unfold Committer.commit
  simp only [hfound, hnew, Bool.false_eq_true, if_false]
  rcases write store p s with ⟨_ | _, _⟩ <;> rfl

theorem write_shelf (fails : Nat → Option StorageError) (p : Snapshot) (s : Shelf) :
    write (Shelf.store fails) p s
      = (.of p.revision (fails s.puts.length), s.asked fails documentKey p.content) := by
  cases h : fails s.puts.length <;> simp [write, Shelf.store, SaveEvent.of, h]

/-! ## §3. What lies on a shelf. -/

/-- The text of the last put under a key that has succeeded. -/
def lastText (key : String) (puts : List Put) : Option String :=
  (puts.filter fun p => p.key = key ∧ p.failure = none).getLast?.map Put.text

/-- On the shelf lies what was put last, or what lay there at first. -/
def Shelf.Lasting (first : List (String × String)) (s : Shelf) : Prop :=
  ∀ key, s.texts.lookup key = (lastText key s.puts).or (first.lookup key)

theorem lastText_concat (key : String) (puts : List Put) (p : Put) :
    lastText key (puts ++ [p])
      = if p.key = key ∧ p.failure = none then some p.text else lastText key puts := by
  unfold lastText
  rw [List.filter_append]
  by_cases h : p.key = key ∧ p.failure = none
  · have hlast : [p].filter (fun p => p.key = key ∧ p.failure = none) = [p] := by simp [h]
    rw [hlast, List.getLast?_concat, if_pos h]
    rfl
  · have hnone : [p].filter (fun p => p.key = key ∧ p.failure = none) = [] := by simpa using h
    rw [hnone, List.append_nil, if_neg h]

theorem Shelf.Lasting.asked {first : List (String × String)} {s : Shelf} (h : s.Lasting first)
    (fails : Nat → Option StorageError) (key text : String) :
    (s.asked fails key text).Lasting first := by
  intro other
  show (if _ then _ else _ : List (String × String)).lookup other = (lastText other (_ ++ _)).or _
  rw [lastText_concat]
  by_cases hfails : fails s.puts.length = none
  · rw [if_pos hfails]
    by_cases hkey : key = other
    · subst hkey
      rw [List.lookup_cons_self, if_pos ⟨rfl, hfails⟩]
      rfl
    · have hbeq : (other == key) = false := by simpa using Ne.symm hkey
      rw [List.lookup_cons, hbeq, if_neg (fun hboth => hkey hboth.1)]
      exact h other
  · rw [if_neg hfails, if_neg (fun hboth => hfails hboth.2)]
    exact h other

end RenderDesk.Storage
