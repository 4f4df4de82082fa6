/-
  RenderDesk.Timed
  ────────────────
  Values that take time to arrive, and limits on the wait.

  Main statements:
    * `within_in_time` — a value that is there at the limit still counts;
    * `within_late` — a later one does not;
    * `of_within` — what is not taken instead of a value is the value.
-/
import RenderDesk.Duration

namespace RenderDesk

/-- A value that arrives after some time, or never. -/
inductive Timed (α : Type) where
  | after (elapsed : Duration) (value : α)
  | never
  deriving Repr, DecidableEq

namespace Timed

/-! ## §1. Waiting. -/

/-- A value that is there at once. -/
def now (a : α) : Timed α := .after .zero a

/-- The same value, delayed further. -/
def later (d : Duration) : Timed α → Timed α
  | .after elapsed a => .after (d + elapsed) a
  | .never => .never

def map (f : α → β) : Timed α → Timed β
  | .after elapsed a => .after elapsed (f a)
  | .never => .never

/-- The value, if one arrives. -/
def value? : Timed α → Option α
  | .after _ a => some a
  | .never => none

/-! ## §2. Limits. -/

/-- Waits until a limit, and takes `late` instead of a value that is not there
by then. -/
def within (limit : Duration) (late : α) : Timed α → Timed α
  | .after elapsed a => if elapsed ≤ limit then .after elapsed a else .after limit late
  | .never => .after limit late

/-! ## §3. Laws. -/

theorem within_in_time {limit elapsed : Duration} (h : elapsed ≤ limit) (late a : α) :
    (Timed.after elapsed a).within limit late = .after elapsed a := by
  simp [within, h]

theorem within_late {limit elapsed : Duration} (h : ¬elapsed ≤ limit) (late a : α) :
    (Timed.after elapsed a).within limit late = .after limit late := by
  simp [within, h]

/-- Behind a limit something always arrives. -/
theorem within_after (limit : Duration) (late : α) (t : Timed α) :
    ∃ elapsed a, t.within limit late = .after elapsed a := by
  cases t with
  | after elapsed a =>
    by_cases h : elapsed ≤ limit
    · exact ⟨_, _, within_in_time h late a⟩
    · exact ⟨_, _, within_late h late a⟩
  | never => exact ⟨limit, late, rfl⟩

theorem of_within {limit elapsed : Duration} {late a : α} {t : Timed α}
    (h : t.within limit late = .after elapsed a) (ha : a ≠ late) : t = .after elapsed a := by
  cases t with
  | after arrived value =>
    by_cases harrived : arrived ≤ limit
    · rw [within_in_time harrived] at h
      exact h
    · rw [within_late harrived] at h
      injection h with _ hlate
      exact absurd hlate.symm ha
  | never =>
    injection h with _ hlate
    exact absurd hlate.symm ha

end Timed

end RenderDesk
