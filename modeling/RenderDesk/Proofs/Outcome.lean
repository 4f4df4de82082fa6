/-
  RenderDesk.Proofs.Outcome
  ─────────────────────────
  What the end of a render makes of a session, in closed form.

  `State.applyOutcome` is a chain of small changes, one for each piece of the
  log.  Here the chain is summed up: an outcome fixes the phase, the
  conclusion and the pieces that the log grows by, and touches nothing but
  the render, the stamper and the mark of change.

  Main statements:
    * `applyOutcome_eq` — the state after an outcome, as one record;
    * `pieces_nonempty` — no piece of the log is empty.
-/
import RenderDesk.Session.Update

namespace RenderDesk.Service

open RenderDesk.Session

/-! ## §1. What an outcome says. -/

/-- The phase in which a render ends. -/
def Outcome.phase : Outcome → Phase
  | .compiled _ _ _ => .succeeded
  | .rejected _ _ | .transportFailed _ | .timedOut _ => .failed

def Outcome.conclusion : Outcome → Conclusion
  | .compiled _ _ (some _) => .newArtifact
  | .compiled _ _ none => .noArtifact
  | .rejected _ _ | .transportFailed _ => .failed
  | .timedOut _ => .timedOut

/-- The artifact that a render brought. -/
def Outcome.artifact? : Outcome → Option String
  | .compiled _ _ artifact => artifact
  | .rejected _ _ | .transportFailed _ | .timedOut _ => none

/-- The job that is shown after a render, when another was shown before. -/
def Outcome.jobOr (before : Option String) : Outcome → Option String
  | .compiled jobId _ _ => jobId
  | .rejected _ _ | .transportFailed _ | .timedOut _ => before

/-- What a render adds to the log. -/
def Outcome.pieces : Outcome → List String
  | .compiled _ log artifact =>
    backendPieces log ++ [LogLine.converted, if artifact.isSome then LogLine.compiled else LogLine.noPdf]
  | .rejected log detail => backendPieces log ++ [LogLine.error detail]
  | .transportFailed reason => [LogLine.error reason]
  | .timedOut after => [LogLine.timedOut after]

/-- A render after its end; its artifact, if it brought one, gets a stamp. -/
def Outcome.ending (o : Outcome) (stamp : UInt64) (r : Render) : Render where
  phase := o.phase
  log := r.log ++ o.pieces
  jobId := o.jobOr r.jobId
  artifactRef := (o.artifact?.map (Artifact.stamped · stamp)).or r.artifactRef
  inFlight := none
  conclusion := some o.conclusion

theorem ending_stored {o : Outcome} {artifact : String} (h : o.artifact? = some artifact)
    (stamp : UInt64) (r : Render) :
    (o.ending stamp r).artifactRef = some (Artifact.stamped artifact stamp) := by
  show (o.artifact?.map (Artifact.stamped · stamp)).or r.artifactRef = _
  rw [h]
  rfl

/-- Without an artifact the one before stays. -/
theorem ending_kept {o : Outcome} (h : o.artifact? = none) (stamp : UInt64) (r : Render) :
    (o.ending stamp r).artifactRef = r.artifactRef := by
  show (o.artifact?.map (Artifact.stamped · stamp)).or r.artifactRef = _
  rw [h]
  rfl

theorem pieces_ne_nil (o : Outcome) : o.pieces ≠ [] := by
  cases o <;> simp [Outcome.pieces]

end RenderDesk.Service

namespace RenderDesk.Session

open RenderDesk.Service

/-! ## §2. The chain summed up. -/

theorem appendPieces_eq (s : State) (pieces : List String) :
    s.appendPieces pieces
      = { s with
          render := { s.render with log := s.render.log ++ pieces }
          dirty := s.dirty || !pieces.isEmpty } := by
  induction pieces generalizing s with
  | nil => simp [State.appendPieces]
  | cons piece pieces ih =>
    show (s.appendLog piece).appendPieces pieces = _
    rw [ih]
    simp [State.appendLog, State.touched]

theorem applyOutcome_eq (s : State) (o : Outcome) (now : UInt64) :
    s.applyOutcome o now
      = { s with
          render := o.ending (s.stamper.next now).1 s.render
          stamper := if o.artifact?.isSome then (s.stamper.next now).2 else s.stamper
          dirty := true } := by
  cases o with
  | compiled jobId log artifact =>
    -- a new artifact draws a stamp, so the two cases differ in the stamper
    cases artifact <;>
      simp [State.applyOutcome, appendPieces_eq, State.appendLog, State.setJobId,
        State.storeArtifact, State.finishRender, State.touched, Outcome.ending, Outcome.phase,
        Outcome.conclusion, Outcome.artifact?, Outcome.jobOr, Outcome.pieces]
  | rejected log detail =>
    simp [State.applyOutcome, appendPieces_eq, State.appendLog, State.finishRender, State.touched,
      Outcome.ending, Outcome.phase, Outcome.conclusion, Outcome.artifact?, Outcome.jobOr,
      Outcome.pieces]
  | transportFailed reason => rfl
  | timedOut after => rfl

/-! ## §3. No piece is empty. -/

theorem backendPieces_nonempty (log : Option String) : ∀ piece ∈ backendPieces log, piece ≠ "" := by
  intro piece hp
  cases log with
  | none => simp [backendPieces] at hp
  | some text =>
    by_cases he : (Text.trimmedEnd text).isEmpty = true
    · simp [backendPieces, he] at hp
    · have hpiece : piece = Text.trimmedEnd text := by simpa [backendPieces, he] using hp
      rw [hpiece]
      intro h0
      exact he (String.isEmpty_iff.2 h0)

theorem error_nonempty (text : String) : LogLine.error text ≠ "" := by
  intro h
  rw [LogLine.error, String.append_eq_empty_iff] at h
  exact absurd h.1 (by decide)

theorem pieces_nonempty (o : Outcome) : ∀ piece ∈ o.pieces, piece ≠ "" := by
  intro piece hp
  cases o with
  | compiled jobId log artifact =>
    simp only [Outcome.pieces, List.mem_append, List.mem_cons, List.not_mem_nil, or_false] at hp
    rcases hp with hlog | rfl | rfl
    · exact backendPieces_nonempty log piece hlog
    · decide
    · cases artifact with
      | none =>
        show LogLine.noPdf ≠ ""
        decide
      | some reference =>
        show LogLine.compiled ≠ ""
        decide
  | rejected log detail =>
    rcases List.mem_append.1 hp with hlog | he
    · exact backendPieces_nonempty log piece hlog
    · rw [List.mem_singleton.1 he]
      exact error_nonempty detail
  | transportFailed reason =>
    rw [List.mem_singleton.1 hp]
    exact error_nonempty reason
  | timedOut after =>
    rw [List.mem_singleton.1 hp]
    exact error_nonempty _

end RenderDesk.Session
