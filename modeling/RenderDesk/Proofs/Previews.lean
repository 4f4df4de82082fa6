/-
  RenderDesk.Proofs.Previews
  ──────────────────────────
  No preview is stale: every artifact that a render brings is stored under a
  reference of its own.

  The references differ in their stamps.  A stamp is drawn when a render comes
  to its end with an artifact, and only then; the last one is remembered, so
  stamps grow along a history until they reach the largest 64-bit number,
  which is out of reach for clocks that read half of it.

  Main statements:
    * `act_brings`, `act_idle` — an act draws a stamp and stores a reference
      with it, or touches neither;
    * `after_last_le` — how far the stamps get;
    * `stamps_le_last` — no stamp so far is larger than the last one;
    * `never_stale` — references differ, and the last one is kept.
-/
import Mathlib.Algebra.Group.Nat.Defs
import Mathlib.Data.List.Induction
import RenderDesk.Proofs.History
import RenderDesk.Proofs.Stamping

namespace RenderDesk.Session

open RenderDesk.Artifact (Stamper stamped toNat_next withoutFragment stamped_unique)
open RenderDesk.Service

/-! ## §1. Artifacts that arrive. -/

/-- The artifact that an act brings to a session that awaits it, and the
reading of the clock then. -/
def State.brought? (s : State) : Act → Option (String × UInt64)
  | .message (.renderCompleted id outcome now) =>
    if s.render.inFlight = some id then outcome.artifact?.map fun artifact => (artifact, now)
    else none
  | _ => none

def State.brings (s : State) (a : Act) : List (String × UInt64) := (s.brought? a).toList

/-- The stamp that an act draws. -/
def State.stamps (s : State) (a : Act) : List UInt64 :=
  (s.brings a).map fun brought => (s.stamper.next brought.2).1

/-- The reading of the clock at the end of a render that an act reports. -/
def Act.reading? : Act → Option UInt64
  | .message (.renderCompleted _ _ now) => some now
  | _ => none

/-- The readings of the clock at the ends of renders, awaited or not. -/
def readings (acts : List Act) : List UInt64 := acts.filterMap Act.reading?

theorem readings_append (acts later : List Act) :
    readings (acts ++ later) = readings acts ++ readings later :=
  List.filterMap_append

theorem readings_cons (a : Act) (acts : List Act) :
    readings (a :: acts) = a.reading?.toList ++ readings acts := by
  unfold readings
  rw [List.filterMap_cons]
  cases a.reading? <;> rfl

/-! ## §2. What an act does to references and stamps. -/

/-- An artifact is brought with the reading that is reported. -/
theorem reading_of_brought {s : State} {a : Act} {artifact : String} {now : UInt64}
    (h : s.brought? a = some (artifact, now)) : a.reading? = some now := by
  unfold State.brought? at h
  split at h
  · next id outcome reading =>
    split at h
    · obtain ⟨_, _, hpair⟩ := Option.map_eq_some_iff.1 h
      injection hpair with _ hnow
      rw [← hnow]
      rfl
    · cases h
  · cases h

theorem act_brings {s : State} {a : Act} {artifact : String} {now : UInt64}
    (h : s.brought? a = some (artifact, now)) :
    (s.act a).render.artifactRef = some (stamped artifact (s.stamper.next now).1)
      ∧ (s.act a).stamper = (s.stamper.next now).2 := by
  unfold State.brought? at h
  split at h
  · next id outcome reading =>
    split at h
    · next hid =>
      obtain ⟨_, hartifact, hpair⟩ := Option.map_eq_some_iff.1 h
      injection hpair with heq hnow
      subst heq hnow
      simp only [State.act, update_renderCompleted_awaited hid, applyOutcome_eq, hartifact]
      exact ⟨ending_stored hartifact _ _, rfl⟩
    · cases h
  · cases h

theorem act_idle {s : State} {a : Act} (h : s.brought? a = none) :
    (s.act a).render.artifactRef = s.render.artifactRef ∧ (s.act a).stamper = s.stamper := by
  cases a with
  | look => exact ⟨rfl, rfl⟩
  | message m =>
    show (update s m).1.render.artifactRef = _ ∧ (update s m).1.stamper = _
    cases update_turn s m with
    | ended hm hid hu =>
      subst hm
      simp only [State.brought?, hid, if_true, Option.map_eq_none_iff] at h
      rw [hu, applyOutcome_eq]
      refine ⟨ending_kept h _ _, ?_⟩
      rw [h]
      rfl
    | apart hstale hrender hnext hstamper hsends =>
      exact ⟨congrArg Render.artifactRef hrender, hstamper⟩
    | begun _ _ _ hu | unsent _ _ _ hu | dispatched _ _ _ hu | cleared _ hu =>
      rw [hu]
      exact ⟨rfl, rfl⟩

theorem brings_eq_nil_iff {s : State} {a : Act} : s.brings a = [] ↔ s.brought? a = none := by
  unfold State.brings
  rw [Option.toList_eq_nil_iff]

/-! ## §3. Stamps along a history. -/

theorem last_le_next (t : Stamper) (now : UInt64) :
    t.last.toNat ≤ (t.next now).2.last.toNat := by
  show t.last.toNat ≤ (t.next now).1.toNat
  have hlast := t.last.toNat_lt
  rw [toNat_next]
  show t.last.toNat ≤ max now.toNat (min (2 ^ 64 - 1) (t.last.toNat + 1))
  omega

/-- A stamp below the largest number is below every stamp that comes after it. -/
theorem lt_next {t : Stamper} {before : UInt64} (hlast : before.toNat ≤ t.last.toNat)
    (hroom : before.toNat < 2 ^ 64 - 1) (now : UInt64) : before < (t.next now).1 := by
  rw [UInt64.lt_iff_toNat_lt, toNat_next]
  show before.toNat < max now.toNat (min (2 ^ 64 - 1) (t.last.toNat + 1))
  omega

theorem act_last_mono (s : State) (a : Act) :
    s.stamper.last.toNat ≤ (s.act a).stamper.last.toNat := by
  cases hb : s.brought? a with
  | none => rw [(act_idle hb).2]
  | some brought =>
    rw [(act_brings hb).2]
    exact last_le_next s.stamper brought.2

/-- The last stamp never gets smaller. -/
theorem after_last_mono (s : State) (acts : List Act) :
    s.stamper.last.toNat ≤ (s.after acts).stamper.last.toNat := by
  induction acts generalizing s with
  | nil => exact Nat.le_refl _
  | cons a acts ih => exact Nat.le_trans (act_last_mono s a) (ih (s.act a))

theorem act_last_le {s : State} {a : Act} {bound : Nat} (hs : s.stamper.last.toNat ≤ bound)
    (ha : ∀ now ∈ a.reading?, now.toNat ≤ bound) :
    (s.act a).stamper.last.toNat ≤ bound + a.reading?.toList.length := by
  cases hb : s.brought? a with
  | none =>
    rw [(act_idle hb).2]
    omega
  | some brought =>
    -- the new stamp is the reading, or one more than the last stamp
    have hread := reading_of_brought hb
    have hnow := ha brought.2 hread
    rw [(act_brings hb).2, hread]
    show (s.stamper.next brought.2).1.toNat ≤ bound + 1
    rw [toNat_next]
    omega

/-- The stamps get past the largest reading by one for each render at most. -/
theorem after_last_le {s : State} {acts : List Act} {bound : Nat}
    (hs : s.stamper.last.toNat ≤ bound) (hacts : ∀ now ∈ readings acts, now.toNat ≤ bound) :
    (s.after acts).stamper.last.toNat ≤ bound + (readings acts).length := by
  -- each report may push the bound up by one, so it is general in the induction
  induction acts generalizing s bound with
  | nil => exact hs
  | cons a acts ih =>
    rw [readings_cons] at hacts ⊢
    have ha : ∀ now ∈ a.reading?, now.toNat ≤ bound := by
      intro now hnow
      exact hacts now (List.mem_append_left _ (Option.mem_toList.2 hnow))
    have hrest : ∀ now ∈ readings acts, now.toNat ≤ bound + a.reading?.toList.length := by
      intro now hnow
      have hle := hacts now (List.mem_append_right _ hnow)
      omega
    have hle := ih (act_last_le hs ha) hrest
    rw [List.length_append]
    show ((s.act a).after acts).stamper.last.toNat ≤ _
    omega

/-- Every stamp that was drawn is at most the last one. -/
theorem stamps_le_last (s : State) (acts : List Act) :
    ∀ stamp ∈ s.gather State.stamps acts, stamp.toNat ≤ (s.after acts).stamper.last.toNat := by
  induction acts generalizing s with
  | nil =>
    intro stamp hstamp
    cases hstamp
  | cons a acts ih =>
    intro stamp hstamp
    rcases List.mem_append.1 hstamp with hnow | hlater
    · -- the stamp is remembered, and the last one only grows
      obtain ⟨brought, hb, rfl⟩ := List.mem_map.1 hnow
      have hbrought : s.brought? a = some brought := Option.mem_toList.1 hb
      have hlast : (s.act a).stamper.last = (s.stamper.next brought.2).1 := by
        rw [(act_brings hbrought).2]
        rfl
      rw [← hlast]
      exact after_last_mono (s.act a) acts
    · exact ih (s.act a) stamp hlater

/-! ## §4. References along a history. -/

/-- Without a new artifact the reference stays. -/
theorem after_artifactRef {s : State} {acts : List Act} (h : s.gather State.brings acts = []) :
    (s.after acts).render.artifactRef = s.render.artifactRef := by
  induction acts generalizing s with
  | nil => rfl
  | cons a acts ih =>
    obtain ⟨hnow, hlater⟩ := List.append_eq_nil_iff.1 h
    calc ((s.act a).after acts).render.artifactRef
        = (s.act a).render.artifactRef := ih hlater
      _ = s.render.artifactRef := (act_idle (brings_eq_nil_iff.1 hnow)).1

/-- A reference that is there is never taken away. -/
theorem after_artifactRef_isSome {s : State} (acts : List Act)
    (h : s.render.artifactRef.isSome = true) :
    (s.after acts).render.artifactRef.isSome = true := by
  induction acts generalizing s with
  | nil => exact h
  | cons a acts ih =>
    apply ih
    cases hb : s.brought? a with
    | none =>
      rw [(act_idle hb).1]
      exact h
    | some brought =>
      rw [(act_brings hb).1]
      rfl

/-- Of two artifacts the later one gets another reference, unless the stamps
have run out. -/
theorem references_differ {s : State} {a b : Act} {between : List Act}
    (ha : (s.brought? a).isSome = true)
    (hb : (((s.act a).after between).brought? b).isSome = true)
    (hroom : ((s.act a).after between).stamper.last.toNat < 2 ^ 64 - 1) :
    ∃ r r', (s.act a).render.artifactRef = some r
      ∧ (((s.act a).after between).act b).render.artifactRef = some r'
      ∧ withoutFragment r ≠ withoutFragment r' := by
  obtain ⟨first, hfirst⟩ := Option.isSome_iff_exists.1 ha
  obtain ⟨second, hsecond⟩ := Option.isSome_iff_exists.1 hb
  obtain ⟨hr, hlast⟩ := act_brings hfirst
  obtain ⟨hr', -⟩ := act_brings hsecond
  refine ⟨_, _, hr, hr', ?_⟩
  intro hsame
  -- the first stamp was the last one then, so the second is larger
  have hstamps := (stamped_unique hsame).2
  have hgrown := after_last_mono (s.act a) between
  have hlarger := Artifact.last_lt_next ((s.act a).after between).stamper second.2 hroom
  rw [← hstamps] at hlarger
  rw [hlast] at hgrown
  exact absurd (Nat.lt_of_le_of_lt hgrown hlarger) (Nat.lt_irrefl _)

/-! ## §5. No preview is stale. -/

/-- What is shown of artifacts is never stale, for a session that was in a
state once and for what has happened to it since. -/
structure NeverStale (start : State) (acts : List Act) : Prop where
  /-- Two renders that bring an artifact each store references that differ, and
  not in their fragments only. -/
  distinct : ∀ before a between b later, acts = before ++ a :: (between ++ b :: later) →
    ((start.after before).brought? a).isSome = true →
    ((start.after (before ++ a :: between)).brought? b).isSome = true →
    ∃ r r', (start.after (before ++ [a])).render.artifactRef = some r
      ∧ (start.after (before ++ a :: (between ++ [b]))).render.artifactRef = some r'
      ∧ r ≠ r' ∧ withoutFragment r ≠ withoutFragment r'
  /-- Between them the reference stays. -/
  steady : ∀ before between later, acts = before ++ (between ++ later) →
    (start.after before).gather State.brings between = [] →
    (start.after (before ++ between)).render.artifactRef
      = (start.after before).render.artifactRef
  /-- Once there is a reference, there is one for ever. -/
  kept : ∀ before later, acts = before ++ later →
    (start.after before).render.artifactRef.isSome = true →
    (start.after acts).render.artifactRef.isSome = true

/-- **No preview is stale**, whatever the service answers and however the clock
goes, as long as it reads less than half of the 64-bit numbers and there are
fewer renders than that. -/
theorem never_stale (template : String) (acts : List Act)
    (hclock : ∀ now ∈ readings acts, now.toNat ≤ 2 ^ 63 - 1)
    (hfew : (readings acts).length < 2 ^ 63) : NeverStale (.preferring template) acts where
  distinct := by
    rintro before a between b later rfl ha hb
    have hroom : ((State.preferring template).after (before ++ a :: between)).stamper.last.toNat
        < 2 ^ 64 - 1 := by
      have hlater :
          before ++ a :: (between ++ b :: later) = (before ++ a :: between) ++ b :: later := by
        simp
      rw [hlater, readings_append] at hclock hfew
      -- the second render is still to be counted
      have hb1 : 1 ≤ (readings (b :: later)).length := by
        obtain ⟨brought, hbrought⟩ := Option.isSome_iff_exists.1 hb
        rw [readings_cons, reading_of_brought hbrought]
        simp
      have hle := after_last_le (s := State.preferring template) (Nat.zero_le (2 ^ 63 - 1))
        fun now hnow => hclock now (List.mem_append_left _ hnow)
      rw [List.length_append] at hfew
      omega
    rw [after_append, after_cons] at hb hroom
    obtain ⟨r, r', hr, hr', hdiffer⟩ := references_differ ha hb hroom
    refine ⟨r, r', ?_, ?_, ?_, hdiffer⟩
    · rw [after_snoc]
      exact hr
    · rw [after_append, after_cons, after_snoc]
      exact hr'
    · rintro rfl
      exact hdiffer rfl
  steady := by
    rintro before between later rfl hnone
    rw [after_append]
    exact after_artifactRef hnone
  kept := by
    rintro before later rfl hsome
    rw [after_append]
    exact after_artifactRef_isSome later hsome

/-- Two renders with one artifact, the second at an earlier reading of the
clock, and the artifact looks as if it were stamped already. -/
def sameArtifact : List Act :=
  [.message (.templatesLoaded ["t"]), .message .renderRequested,
    .message (.renderCompleted 1 (.compiled none none (some "/a?t=6#p")) 6),
    .message .renderRequested,
    .message (.renderCompleted 2 (.compiled none none (some "/a?t=6#p")) 5)]

/-- The two references differ. -/
theorem same_artifact_differs :
    (∀ now ∈ readings sameArtifact, now.toNat ≤ 2 ^ 63 - 1)
      ∧ (readings sameArtifact).length < 2 ^ 63
      ∧ ∃ r r', ((State.preferring "t").after (sameArtifact.take 3)).render.artifactRef = some r
        ∧ ((State.preferring "t").after sameArtifact).render.artifactRef = some r'
        ∧ r ≠ r' ∧ withoutFragment r ≠ withoutFragment r' := by
  have hreadings : readings sameArtifact = [6, 5] := rfl
  have hclock : ∀ now ∈ readings sameArtifact, now.toNat ≤ 2 ^ 63 - 1 := by
    rw [hreadings]
    simp
  have hfew : (readings sameArtifact).length < 2 ^ 63 := by
    rw [hreadings]
    simp
  exact ⟨hclock, hfew,
    (never_stale "t" sameArtifact hclock hfew).distinct (sameArtifact.take 2) _
      [.message .renderRequested] _ [] rfl (by decide) (by decide)⟩

end RenderDesk.Session
