/-
  RenderDesk.Artifact.Stamp
  ─────────────────────────
  References to rendered artifacts that no cache can confuse.

  A reference gets a query parameter `t=<stamp>`, in front of its fragment.
  Stamps come from clock readings but never repeat: a reading that is not
  past the last stamp is replaced by its successor, up to the largest 64-bit
  number, where they stay.

  Main statements:
    * `le_next` — a stamp is never before its reading;
    * `last_lt_next` — below the largest number stamps strictly grow.
-/
import RenderDesk.Text.Cut

namespace RenderDesk.Artifact

open RenderDesk.Text

/-! ## §1. Stamps. -/

/-- The last stamp given out. -/
structure Stamper where
  last : UInt64 := 0
  deriving Repr, DecidableEq, Inhabited

/-- The successor of a number, the largest one being its own. -/
def saturatingSucc (n : UInt64) : UInt64 :=
  if n.toNat + 1 < UInt64.size then n + 1 else n

/-- The stamp for a clock reading, and the stamper after it. -/
def Stamper.next (s : Stamper) (now : UInt64) : UInt64 × Stamper :=
  let least := saturatingSucc s.last
  let stamp := if least.toNat ≤ now.toNat then now else least
  (stamp, ⟨stamp⟩)

/-- The stamps for a sequence of readings. -/
def Stamper.stamps (s : Stamper) : List UInt64 → List UInt64
  | [] => []
  | now :: rest =>
    let (stamp, s) := s.next now
    stamp :: s.stamps rest

/-! ## §2. Stamped references. -/

/-- A reference with its fragment cut off, and the fragment. -/
def cutFragment (reference : List Char) : List Char × Option (List Char) :=
  match cutAt '#' reference with
  | some (base, fragment) => (base, some fragment)
  | none => (reference, none)

/-- A reference with a stamp, given by its characters. -/
def stampedChars (reference : List Char) (stamp : UInt64) : List Char :=
  let (base, fragment) := cutFragment reference
  let joiner := if base.contains '?' then '&' else '?'
  let front := base ++ joiner :: 't' :: '=' :: Nat.toDigits 10 stamp.toNat
  match fragment with
  | some fragment => front ++ '#' :: fragment
  | none => front

/-- A reference with a stamp. -/
def stamped (reference : String) (stamp : UInt64) : String :=
  String.ofList (stampedChars reference.toList stamp)

/-! ## §3. Laws. -/

theorem toNat_saturatingSucc (n : UInt64) :
    (saturatingSucc n).toNat = min (UInt64.size - 1) (n.toNat + 1) := by
  have hn := n.toNat_lt
  have hsize : UInt64.size = 18446744073709551616 := rfl
  unfold saturatingSucc
  rw [hsize]
  split
  · next h =>
    rw [UInt64.toNat_add]
    simp only [UInt64.reduceToNat]
    omega
  · omega

theorem toNat_next (s : Stamper) (now : UInt64) :
    (s.next now).1.toNat = max now.toNat (min (UInt64.size - 1) (s.last.toNat + 1)) := by
  have h := toNat_saturatingSucc s.last
  simp only [Stamper.next]
  split <;> omega

theorem le_next (s : Stamper) (now : UInt64) : now.toNat ≤ (s.next now).1.toNat := by
  rw [toNat_next]
  omega

theorem last_lt_next (s : Stamper) (now : UInt64) (h : s.last.toNat < UInt64.size - 1) :
    s.last.toNat < (s.next now).1.toNat := by
  rw [toNat_next]
  omega

end RenderDesk.Artifact
