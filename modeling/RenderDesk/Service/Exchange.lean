/-
  RenderDesk.Service.Exchange
  ───────────────────────────
  What is sent to the compile service for a document, what comes back, and
  how a finished render counts.

  Main statements:
    * `ofResult_compiled_iff` — a render counts as compiled exactly when the
      service answered and reported success.
-/
import RenderDesk.Service.Failure

namespace RenderDesk.Service

/-! ## §1. Requests and replies. -/

/-- A document to be converted, and compiled to PDF if `compile`. -/
structure CompileRequest where
  content : String := ""
  template : String := ""
  compile : Bool := false
  deriving Repr, DecidableEq, Inhabited

/-- The service's reply. -/
structure CompileReply where
  success : Bool := true
  log : Option String := none
  pdfUrl : Option String := none
  jobId : Option String := none
  detail : Option String := none
  deriving Repr, DecidableEq, Inhabited

/-! ## §2. How a render ended. -/

/-- How a finished render counts for the session. -/
inductive Outcome where
  /-- The service converted the document; an artifact may be missing. -/
  | compiled (jobId backendLog artifact : Option String)
  /-- The service answered, and reported a failure. -/
  | rejected (backendLog : Option String) (detail : String)
  /-- The service could not be reached or understood. -/
  | transportFailed (reason : String)
  /-- The desk's own deadline passed. -/
  | timedOut (after : Duration)
  deriving Repr, DecidableEq

/-- A reference that is not empty. -/
def nonEmpty? : Option String → Option String
  | some s => if s.isEmpty then none else some s
  | none => none

/-- How the result of a render request counts. -/
def Outcome.ofResult : Except Failure CompileReply → Outcome
  | .ok reply =>
    if reply.success then .compiled reply.jobId reply.log (nonEmpty? reply.pdfUrl)
    else .rejected reply.log (reply.detail.getD "Render failed")
  | .error ⟨.deadlineExceeded after, _⟩ => .timedOut after
  | .error ⟨.httpStatus _, message⟩ => .rejected none message
  | .error failure => .transportFailed failure.text

/-! ## §3. Laws. -/

theorem ofResult_compiled_iff {r : Except Failure CompileReply} {j l a : Option String} :
    Outcome.ofResult r = .compiled j l a ↔
      ∃ reply, r = .ok reply ∧ reply.success = true ∧ j = reply.jobId ∧ l = reply.log ∧
        a = nonEmpty? reply.pdfUrl := by
  cases r with
  | ok reply =>
    cases h : reply.success
    · simp [Outcome.ofResult, h]
    · simp only [Outcome.ofResult, h, if_true, Outcome.compiled.injEq, Except.ok.injEq,
        exists_eq_left', true_and]
      exact ⟨fun ⟨a, b, c⟩ => ⟨a.symm, b.symm, c.symm⟩, fun ⟨a, b, c⟩ => ⟨a.symm, b.symm, c.symm⟩⟩
  | error f =>
    obtain ⟨cause, message⟩ := f
    cases cause <;> simp [Outcome.ofResult]

end RenderDesk.Service
