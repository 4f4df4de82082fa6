/-
  RenderDesk.Proofs.History
  ─────────────────────────
  What a session has gone through, read off the list of what happened to it.

  An act tells something in the state that it meets: what the session asks
  for, which render is sent, which one comes back.  What all acts tell is
  gathered along the list, and a list that grows at its end tells the same as
  before and what is new.

  Main statements:
    * `gather_append` — a history is told one part after another;
    * `gather_numbered` — numbers drawn from a counter count from one;
    * `after_coherent` — a session is coherent at the end of every history.
-/
import Mathlib.Algebra.Group.Nat.Defs
import Mathlib.Data.List.Induction
import RenderDesk.Proofs.Coherence
import RenderDesk.Proofs.Turns

namespace RenderDesk.Session

open RenderDesk.Service

/-! ## §1. Acts one after another. -/

/-- The state after acts. -/
def State.after (s : State) (acts : List Act) : State := acts.foldl State.act s

/-- What the acts tell, each in the state that it meets. -/
def State.gather {α : Type} (tell : State → Act → List α) (s : State) : List Act → List α
  | [] => []
  | a :: acts => tell s a ++ State.gather tell (s.act a) acts

@[simp] theorem after_nil (s : State) : s.after [] = s := rfl

@[simp] theorem after_cons (s : State) (a : Act) (acts : List Act) :
    s.after (a :: acts) = (s.act a).after acts := rfl

theorem after_append (s : State) (acts later : List Act) :
    s.after (acts ++ later) = (s.after acts).after later :=
  List.foldl_append

theorem after_snoc (s : State) (acts : List Act) (a : Act) :
    s.after (acts ++ [a]) = (s.after acts).act a := by
  rw [after_append]
  rfl

section Gather

variable {α : Type} (tell : State → Act → List α)

@[simp] theorem gather_nil (s : State) : s.gather tell [] = [] := rfl

@[simp] theorem gather_cons (s : State) (a : Act) (acts : List Act) :
    s.gather tell (a :: acts) = tell s a ++ (s.act a).gather tell acts := rfl

theorem gather_append (s : State) (acts later : List Act) :
    s.gather tell (acts ++ later) = s.gather tell acts ++ (s.after acts).gather tell later := by
  induction acts generalizing s with
  | nil => rfl
  | cons a acts ih =>
    rw [List.cons_append, gather_cons, gather_cons, ih, List.append_assoc]
    rfl

theorem gather_snoc (s : State) (acts : List Act) (a : Act) :
    s.gather tell (acts ++ [a]) = s.gather tell acts ++ tell (s.after acts) a := by
  rw [gather_append, gather_cons, gather_nil, List.append_nil]

theorem gather_map {β : Type} (f : α → β) (s : State) (acts : List Act) :
    s.gather (fun s a => (tell s a).map f) acts = (s.gather tell acts).map f := by
  induction acts generalizing s with
  | nil => rfl
  | cons a acts ih => rw [gather_cons, gather_cons, ih, List.map_append]

end Gather

/-- Numbers that acts draw one at a time from a counter count from one, as long
as 64 bits hold them. -/
theorem gather_numbered (tell : State → Act → List UInt64) (next : State → UInt64) {start : State}
    (hstart : next start = 1)
    (hact : ∀ (acts : List Act) (a : Act),
      (tell (start.after acts) a = [next (start.after acts)]
          ∧ next ((start.after acts).act a) = next (start.after acts) + 1)
        ∨ (tell (start.after acts) a = []
          ∧ next ((start.after acts).act a) = next (start.after acts)))
    (acts : List Act) (hlen : (start.gather tell acts).length < 2 ^ 64 - 1) :
    (next (start.after acts)).toNat = (start.gather tell acts).length + 1
      ∧ (start.gather tell acts).map UInt64.toNat
        = List.range' 1 (start.gather tell acts).length := by
  -- the counter is kept one ahead of the numbers so far
  induction acts using List.reverseRecOn with
  | nil =>
    rw [after_nil, hstart]
    exact ⟨rfl, rfl⟩
  | append_singleton acts a ih =>
    rw [gather_snoc, List.length_append] at hlen
    obtain ⟨hnumber, hids⟩ := ih (by omega)
    rw [after_snoc, gather_snoc]
    rcases hact acts a with ⟨htold, hnext⟩ | ⟨htold, hnext⟩
    · rw [htold, List.length_singleton] at hlen
      rw [htold, hnext, List.map_append, hids, List.length_append, List.length_singleton]
      constructor
      · rw [UInt64.toNat_add, hnumber]
        simp only [UInt64.reduceToNat]
        omega
      · rw [List.range'_1_concat]
        simp only [List.map_cons, List.map_nil, hnumber]
        rw [Nat.add_comm 1]
    · rw [htold, hnext, List.append_nil]
      exact ⟨hnumber, hids⟩

/-! ## §2. Messages among acts. -/

def Act.message? : Act → Option Message
  | .message m => some m
  | .look => none

/-- The messages among acts. -/
def messages (acts : List Act) : List Message := acts.filterMap Act.message?

theorem messages_cons (a : Act) (acts : List Act) :
    messages (a :: acts) = a.message?.toList ++ messages acts := by
  unfold messages
  cases a <;> rfl

/-- What an act makes the session ask for. -/
def State.asks (s : State) : Act → List Effect
  | .message m => (update s m).2
  | .look => []

/-! ## §3. Histories of new sessions. -/

theorem after_coherent (template : String) (acts : List Act) :
    ((State.preferring template).after acts).Coherent :=
  foldl_act_coherent (preferring_coherent template) acts

end RenderDesk.Session
