/-
  RenderDesk.Proofs.Ticking
  ─────────────────────────
  The stamps for a sequence of clock readings, in closed form.

  If numbers had no end, a stamp would be what one of the readings so far, or
  the start, has become by counting on once for every stamp since, and among
  these the largest: a reading takes over when it is ahead of the count.  The
  largest 64-bit number cuts this off.  Cutting off once at the end is the same
  as cutting off at every stamp, because neither counting on nor taking over
  goes back.  What is said of stamps in a row is read off the closed form.

  Main statements:
    * `reach_cons` — the first stamp is the start for those behind it;
    * `reach_add_le` — without the cut, stamps count on at least;
    * `toNat_stamps` — the closed form, from any last stamp;
    * `stamps_mono`, `stamps_strict`, `stamps_le_bound` — how stamps grow;
    * `stamps_closed` — the stamps from the start, with all of this.
-/
import Mathlib.Data.Finset.Lattice.Fold
import Mathlib.Data.List.Forall2
import Mathlib.Data.List.GetD
import Mathlib.Order.Lattice.Nat
import RenderDesk.Artifact.Stamp

namespace RenderDesk.Artifact

/-! ## §1. Counting without an end. -/

/-- How far the start or a reading has counted on at the stamp in place `k`, the
first place being 0. -/
def reach (last : Nat) (readings : List UInt64) (k : Nat) : Nat :=
  max (last + (k + 1))
    ((Finset.range (k + 1)).sup fun j => (readings.getD j 0).toNat + (k - j))

section Counting

variable {last : Nat} {readings : List UInt64} {i j k bound : Nat}

theorem reach_le_iff : reach last readings k ≤ bound
    ↔ last + (k + 1) ≤ bound ∧ ∀ j ≤ k, (readings.getD j 0).toNat + (k - j) ≤ bound := by
  rw [reach, Nat.max_le, Finset.sup_le_iff]
  simp only [Finset.mem_range, Nat.lt_succ_iff]

theorem start_le_reach (last : Nat) (readings : List UInt64) (k : Nat) :
    last + (k + 1) ≤ reach last readings k :=
  (reach_le_iff.1 (Nat.le_refl _)).1

theorem reading_le_reach (last : Nat) (readings : List UInt64) (h : j ≤ k) :
    (readings.getD j 0).toNat + (k - j) ≤ reach last readings k :=
  (reach_le_iff.1 (Nat.le_refl _)).2 j h

theorem reach_zero (last : Nat) (now : UInt64) (readings : List UInt64) :
    reach last (now :: readings) 0 = max (last + 1) now.toNat := by
  simp [reach]

/-- **The first stamp is the start for those behind it.** -/
theorem reach_cons (last : Nat) (now : UInt64) (readings : List UInt64) (k : Nat) :
    reach last (now :: readings) (k + 1) = reach (max (last + 1) now.toNat) readings k := by
  apply eq_of_forall_ge_iff
  intro bound
  rw [reach_le_iff, reach_le_iff]
  constructor
  · rintro ⟨hstart, hreadings⟩
    have hfirst : now.toNat + (k + 1) ≤ bound := hreadings 0 (Nat.zero_le _)
    refine ⟨by omega, ?_⟩
    intro j hj
    have hlater := hreadings (j + 1) (by omega)
    rwa [List.getD_cons_succ, Nat.add_sub_add_right] at hlater
  · rintro ⟨hstart, hreadings⟩
    refine ⟨by omega, ?_⟩
    intro j hj
    cases j with
    | zero =>
      show now.toNat + (k + 1) ≤ bound
      omega
    | succ j =>
      rw [List.getD_cons_succ, Nat.add_sub_add_right]
      exact hreadings j (by omega)

/-- A start that is cut off is cut off no later at the end. -/
theorem min_reach (largest last : Nat) (readings : List UInt64) (k : Nat) :
    min largest (reach (min largest last) readings k) = min largest (reach last readings k) := by
  unfold reach
  omega

/-- **Stamps count on at least**, from any of them to any later one. -/
theorem reach_add_le (last : Nat) (readings : List UInt64) (h : i ≤ k) :
    reach last readings i + (k - i) ≤ reach last readings k := by
  have hstart := start_le_reach last readings k
  have hback : reach last readings i ≤ reach last readings k - (k - i) := by
    rw [reach_le_iff]
    refine ⟨by omega, ?_⟩
    intro j hj
    have hreading := reading_le_reach last readings (Nat.le_trans hj h)
    omega
  omega

/-- Readings up to a bound count on from it. -/
theorem reach_le_bound (hlast : last ≤ bound) (h : ∀ now ∈ readings, now.toNat ≤ bound) :
    reach last readings k ≤ bound + (k + 1) := by
  rw [reach_le_iff]
  refine ⟨by omega, ?_⟩
  intro j hj
  by_cases hplace : j < readings.length
  · rw [List.getD_eq_getElem _ _ hplace]
    have hreading := h _ (List.getElem_mem hplace)
    omega
  · rw [List.getD_eq_default _ _ (Nat.le_of_not_lt hplace)]
    show 0 + (k - j) ≤ bound + (k + 1)
    omega

end Counting

/-! ## §2. The closed form. -/

theorem length_stamps (s : Stamper) (readings : List UInt64) :
    (s.stamps readings).length = readings.length := by
  induction readings generalizing s with
  | nil => rfl
  | cons now readings ih => exact congrArg Nat.succ (ih (s.next now).2)

theorem toNat_next_eq_min (s : Stamper) (now : UInt64) :
    (s.next now).1.toNat = min (2 ^ 64 - 1) (max (s.last.toNat + 1) now.toNat) := by
  have hnow := now.toNat_lt
  rw [toNat_next]
  show max now.toNat (min (2 ^ 64 - 1) (s.last.toNat + 1)) = _
  omega

/-- **The closed form of the stamps**, from any last stamp. -/
theorem toNat_stamps (s : Stamper) (readings : List UInt64) {k : Nat}
    (h : k < (s.stamps readings).length) :
    (s.stamps readings)[k].toNat = min (2 ^ 64 - 1) (reach s.last.toNat readings k) := by
  induction readings generalizing s k with
  | nil => cases h
  | cons now readings ih =>
    cases k with
    | zero =>
      rw [reach_zero]
      exact toNat_next_eq_min s now
    | succ k =>
      -- the stamps behind the first come from a stamper that has the first as its last
      have hrest : k < ((s.next now).2.stamps readings).length := Nat.lt_of_succ_lt_succ h
      calc (s.stamps (now :: readings))[k + 1].toNat
          = ((s.next now).2.stamps readings)[k].toNat := rfl
        _ = min (2 ^ 64 - 1) (reach (s.next now).1.toNat readings k) := ih (s.next now).2 hrest
        _ = min (2 ^ 64 - 1) (reach s.last.toNat (now :: readings) (k + 1)) := by
            rw [toNat_next_eq_min, min_reach, reach_cons]

/-! ## §3. Stamps in a row. -/

theorem reading_le_stamp (s : Stamper) {readings : List UInt64} {k : Nat}
    (hread : k < readings.length) (h : k < (s.stamps readings).length) :
    readings[k] ≤ (s.stamps readings)[k] := by
  have hreading := reading_le_reach s.last.toNat readings (Nat.le_refl k)
  rw [List.getD_eq_getElem _ _ hread] at hreading
  have hlargest := readings[k].toNat_lt
  rw [UInt64.le_iff_toNat_le, toNat_stamps s readings h]
  omega

theorem stamps_mono (s : Stamper) (readings : List UInt64) :
    (s.stamps readings).Pairwise (· ≤ ·) := by
  rw [List.pairwise_iff_getElem]
  intro i k hi hk hik
  have hgrow := reach_add_le s.last.toNat readings (Nat.le_of_lt hik)
  rw [UInt64.le_iff_toNat_le, toNat_stamps s readings hi, toNat_stamps s readings hk]
  omega

/-- A stamp below the largest number is below all that come behind it. -/
theorem stamps_strict (s : Stamper) (readings : List UInt64) :
    (s.stamps readings).Pairwise fun earlier later =>
      earlier.toNat < 2 ^ 64 - 1 → earlier < later := by
  rw [List.pairwise_iff_getElem]
  intro i k hi hk hik hroom
  have hgrow := reach_add_le s.last.toNat readings (Nat.le_of_lt hik)
  rw [toNat_stamps s readings hi] at hroom
  rw [UInt64.lt_iff_toNat_lt, toNat_stamps s readings hi, toNat_stamps s readings hk]
  omega

/-- Stamps get past a bound on the readings by one for each reading at most. -/
theorem stamps_le_bound {s : Stamper} {readings : List UInt64} {bound : Nat}
    (hlast : s.last.toNat ≤ bound) (h : ∀ now ∈ readings, now.toNat ≤ bound) :
    ∀ stamp ∈ s.stamps readings, stamp.toNat ≤ bound + readings.length := by
  intro stamp hstamp
  obtain ⟨k, hk, rfl⟩ := List.getElem_of_mem hstamp
  have hreach := reach_le_bound (k := k) hlast h
  rw [length_stamps] at hk
  rw [toNat_stamps]
  omega

/-! ## §4. Stamps from the start. -/

/-- What the stamps for a sequence of readings are, and how they grow. -/
structure ClosedForm (readings stamps : List UInt64) : Prop where
  length : stamps.length = readings.length
  /-- The stamp in each place is its number, or what a reading up to it has counted on to,
  up to the largest number. -/
  value : ∀ k (h : k < stamps.length), stamps[k].toNat
    = min (2 ^ 64 - 1) (max (k + 1)
        ((Finset.range (k + 1)).sup fun j => (readings.getD j 0).toNat + (k - j)))
  /-- No stamp is before its reading. -/
  covers : List.Forall₂ (· ≤ ·) readings stamps
  mono : stamps.Pairwise (· ≤ ·)
  /-- As long as the largest number is not reached, stamps grow. -/
  strict : stamps.Pairwise fun earlier later => earlier.toNat < 2 ^ 64 - 1 → earlier < later
  /-- Clocks and counts up to half of the numbers never get to the end. -/
  room : (∀ now ∈ readings, now.toNat ≤ 2 ^ 63 - 1) → readings.length < 2 ^ 63 →
    stamps.Pairwise (· < ·)

/-- **The closed form of the stamps**, and what follows from it. -/
theorem stamps_closed (readings : List UInt64) :
    ClosedForm readings (({} : Stamper).stamps readings) where
  length := length_stamps {} readings
  value := by
    intro k hk
    have hvalue := toNat_stamps {} readings hk
    rwa [reach, show ({} : Stamper).last.toNat = 0 from rfl, Nat.zero_add] at hvalue
  covers := by
    rw [List.forall₂_iff_get]
    exact ⟨(length_stamps {} readings).symm, fun k hread hk => reading_le_stamp {} hread hk⟩
  mono := stamps_mono {} readings
  strict := stamps_strict {} readings
  room := by
    intro hclock hfew
    have hlast : ({} : Stamper).last.toNat ≤ 2 ^ 63 - 1 := Nat.zero_le _
    apply (stamps_strict {} readings).imp_of_mem
    intro earlier later hearlier _ hgrows
    apply hgrows
    have hbound := stamps_le_bound hlast hclock earlier hearlier
    omega

theorem backward_clock_grows :
    (∀ now ∈ ([1000, 1000, 900, 5000] : List UInt64), now.toNat ≤ 2 ^ 63 - 1)
      ∧ ([1000, 1000, 900, 5000] : List UInt64).length < 2 ^ 63
      ∧ (({} : Stamper).stamps [1000, 1000, 900, 5000]).Pairwise (· < ·) := by
  have hclock : ∀ now ∈ ([1000, 1000, 900, 5000] : List UInt64), now.toNat ≤ 2 ^ 63 - 1 := by
    simp
  have hfew : ([1000, 1000, 900, 5000] : List UInt64).length < 2 ^ 63 := by decide
  exact ⟨hclock, hfew, (stamps_closed [1000, 1000, 900, 5000]).room hclock hfew⟩

end RenderDesk.Artifact
