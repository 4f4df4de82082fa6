/-
  RenderDesk.Service.Calls
  ────────────────────────
  The compile service as the desk sees it: four calls, each answered after
  some time with a result or a failure, and what is built from them.

  The state `σ` is whatever lies beyond the calls: a network, or a script of
  prepared answers.

  Main statement: `extractSource_unusable` — a reply without success or without
  a job leads to no second call.
-/
import RenderDesk.Service.Exchange
import RenderDesk.Timed

namespace RenderDesk.Service

/-! ## §1. Calls. -/

/-- What a call brings. -/
abbrev Result (α : Type) := Except Failure α

/-- A call: the answer, with the time that it takes, and the state after it. -/
abbrev Call (σ α : Type) := σ → Timed (Result α) × σ

/-- A call that fails at once. -/
def Call.fail (f : Failure) : Call σ α := fun s => (.now (.error f), s)

/-- Continues with what a call brought; a failure ends the chain. -/
def Call.andThen (call : Call σ α) (next : α → Call σ β) : Call σ β := fun s =>
  match call s with
  | (.after elapsed (.ok a), s) =>
    let (answer, s) := next a s
    (answer.later elapsed, s)
  | (.after elapsed (.error f), s) => (.after elapsed (.error f), s)
  | (.never, s) => (.never, s)

/-! ## §2. The service. -/

/-- The calls of a compile service. -/
structure CompileService (σ : Type) where
  /-- Converts a document, and compiles it if asked to. -/
  submit : CompileRequest → Call σ CompileReply
  /-- The intermediate source of a job. -/
  fetchSource : String → Call σ String
  listTemplates : Call σ (List String)
  /-- The bytes of an artifact, given by its reference. -/
  fetchArtifact : String → Call σ ByteArray

/-! ## §3. The source of a document. -/

/-- The job whose source is to be fetched, after a conversion. -/
def jobOf (reply : CompileReply) : Result String :=
  if reply.success then
    match reply.jobId with
    | some jobId => .ok jobId
    | none => .error ⟨.protocol, "response carried no job_id"⟩
  else .error ⟨.rejected, reply.detail.getD "conversion failed"⟩

/-- Submits a document and fetches the source of its job. -/
def CompileService.extractSource (service : CompileService σ) (request : CompileRequest) :
    Call σ String :=
  Call.andThen (service.submit request) fun reply =>
    match jobOf reply with
    | .ok jobId => service.fetchSource jobId
    | .error f => Call.fail f

/-! ## §4. Deadlines. -/

/-- The failure of a submission that the desk gave up. -/
def abandoned (deadline : Duration) : Failure :=
  ⟨.deadlineExceeded deadline, "render abandoned locally; the backend job may still finish"⟩

/-- Submits a document, waiting no longer than a deadline if there is one. -/
def CompileService.submitWithin (service : CompileService σ) (deadline : Option Duration)
    (request : CompileRequest) : Call σ CompileReply := fun s =>
  let (answer, s) := service.submit request s
  match deadline with
  | some deadline => (answer.within deadline (.error (abandoned deadline)), s)
  | none => (answer, s)

/-! ## §5. Laws. -/

theorem extractSource_unusable {service : CompileService σ} {request : CompileRequest} {s s' : σ}
    {elapsed : Duration} {reply : CompileReply} {f : Failure}
    (hs : service.submit request s = (.after elapsed (.ok reply), s'))
    (hj : jobOf reply = .error f) :
    service.extractSource request s = (.after (elapsed + .zero) (.error f), s') := by
  simp [CompileService.extractSource, Call.andThen, hs, hj, Call.fail, Timed.later, Timed.now]

end RenderDesk.Service
