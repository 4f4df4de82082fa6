/-
  RenderDesk.Proofs.Verdict
  ─────────────────────────
  What a session makes of the result of its render.

  Three layers classify: the service reads an answer, the answer counts as an
  outcome, and the outcome ends the render.  Here they are put together, from
  the result of a submission to the state after it, with every result in one
  of the cases.

  Main statements:
    * `phase_ofResult`, `artifact_ofResult`, `overdue_ofResult` — how a result
      counts, case by case;
    * `ending_concluded` — what a state in flight becomes at the end;
    * `result_concluded` — every result ends the render in flight, and success
      is shown for an answer of success only.
-/
import RenderDesk.Proofs.Decoding
import RenderDesk.Proofs.Previews
import RenderDesk.Terminal.Incoming

/-! ## §1. Results. -/

namespace RenderDesk.Service

open RenderDesk.Session

/-- The service replied, and reported success. -/
def Succeeded (result : Result CompileReply) (reply : CompileReply) : Prop :=
  result = .ok reply ∧ reply.success = true

/-- It reported success, and where the artifact is. -/
def Brings (result : Result CompileReply) (url : String) : Prop :=
  ∃ reply, Succeeded result reply ∧ reply.pdfUrl = some url ∧ url ≠ ""

/-- The desk gave the submission up at its deadline. -/
def Overdue (result : Result CompileReply) : Prop :=
  ∃ after message, result = .error ⟨.deadlineExceeded after, message⟩

theorem nonEmpty?_eq_some_iff {reference : Option String} {url : String} :
    nonEmpty? reference = some url ↔ reference = some url ∧ url ≠ "" := by
  cases reference with
  | none => simp [nonEmpty?]
  | some text =>
    by_cases hempty : text = ""
    · have hdropped : nonEmpty? (some "") = none := rfl
      rw [hempty, hdropped]
      constructor
      · rintro ⟨⟩
      · rintro ⟨hsome, hne⟩
        exact absurd (Option.some.inj hsome).symm hne
    · have hkept : nonEmpty? (some text) = some text := by simp [nonEmpty?, hempty]
      rw [hkept]
      constructor
      · intro hsome
        cases hsome
        exact ⟨rfl, hempty⟩
      · exact And.left

/-- A failure is never a success. -/
theorem ofResult_error (f : Failure) :
    (Outcome.ofResult (.error f)).phase = .failed
      ∧ (Outcome.ofResult (.error f)).artifact? = none := by
  obtain ⟨cause, message⟩ := f
  cases cause <;> exact ⟨rfl, rfl⟩

/-- A render ends well exactly when the service reported success. -/
theorem phase_ofResult (result : Result CompileReply) :
    (Outcome.ofResult result).phase = .succeeded ↔ ∃ reply, Succeeded result reply := by
  cases result with
  | error f => simp [(ofResult_error f).1, Succeeded]
  | ok reply =>
    cases hsuccess : reply.success <;>
      simp [Outcome.ofResult, Outcome.phase, Succeeded, hsuccess]

theorem artifact_ofResult (result : Result CompileReply) (url : String) :
    (Outcome.ofResult result).artifact? = some url ↔ Brings result url := by
  cases result with
  | error f => simp [(ofResult_error f).2, Brings, Succeeded]
  | ok reply =>
    cases hsuccess : reply.success with
    | false => simp [Outcome.ofResult, Outcome.artifact?, Brings, Succeeded, hsuccess]
    | true =>
      have hartifact : (Outcome.ofResult (.ok reply)).artifact? = nonEmpty? reply.pdfUrl := by
        simp [Outcome.ofResult, Outcome.artifact?, hsuccess]
      rw [hartifact, nonEmpty?_eq_some_iff]
      constructor
      · exact fun hurl => ⟨reply, ⟨rfl, hsuccess⟩, hurl⟩
      · rintro ⟨_, ⟨hreply, _⟩, hurl⟩
        cases hreply
        exact hurl

/-- A render counts as late exactly when the desk gave it up. -/
theorem overdue_ofResult (result : Result CompileReply) :
    (Outcome.ofResult result).conclusion = .timedOut ↔ Overdue result := by
  cases result with
  | ok reply =>
    cases hsuccess : reply.success with
    | false => simp [Outcome.ofResult, Outcome.conclusion, Overdue, hsuccess]
    | true =>
      cases hartifact : nonEmpty? reply.pdfUrl <;>
        simp [Outcome.ofResult, Outcome.conclusion, Overdue, hsuccess, hartifact]
  | error f =>
    obtain ⟨cause, message⟩ := f
    cases cause <;> simp [Outcome.ofResult, Outcome.conclusion, Overdue]

/-- The job of a reply of success is shown, and no other. -/
theorem jobOr_ofResult (result : Result CompileReply) :
    (∀ reply, Succeeded result reply → (Outcome.ofResult result).jobOr none = reply.jobId)
      ∧ ((∀ reply, ¬Succeeded result reply) → (Outcome.ofResult result).jobOr none = none) := by
  constructor
  · rintro reply ⟨rfl, hsuccess⟩
    simp [Outcome.ofResult, Outcome.jobOr, hsuccess]
  · intro hnone
    have hphase : (Outcome.ofResult result).phase ≠ .succeeded := by
      rw [ne_eq, phase_ofResult, not_exists]
      exact hnone
    cases houtcome : Outcome.ofResult result with
    | compiled jobId log artifact =>
      rw [houtcome] at hphase
      exact absurd rfl hphase
    | _ => rfl

theorem conclusion_newArtifact (o : Outcome) :
    o.conclusion = .newArtifact ↔ ∃ url, o.artifact? = some url := by
  cases o with
  | compiled jobId log artifact =>
    cases artifact <;> simp [Outcome.conclusion, Outcome.artifact?]
  | _ => simp [Outcome.conclusion, Outcome.artifact?]

/-- There is something new to show exactly when a success brings an artifact. -/
theorem newArtifact_ofResult (result : Result CompileReply) :
    (Outcome.ofResult result).conclusion = .newArtifact ↔ ∃ url, Brings result url := by
  rw [conclusion_newArtifact]
  exact exists_congr (artifact_ofResult result)

theorem noArtifact_ofResult {result : Result CompileReply}
    (hsuccess : ∃ reply, Succeeded result reply) (hnone : ∀ url, ¬Brings result url) :
    (Outcome.ofResult result).conclusion = .noArtifact := by
  have hphase := (phase_ofResult result).2 hsuccess
  have hnot : (Outcome.ofResult result).conclusion ≠ .newArtifact := by
    rw [ne_eq, newArtifact_ofResult, not_exists]
    exact hnone
  rcases conclusion_of_phase (Outcome.ofResult result) with ⟨_, hconclusion⟩ | ⟨hfailed, _⟩
  · exact hconclusion.resolve_left hnot
  · rw [hphase] at hfailed
    cases hfailed

/-- A result that is no success is a failure, and one that is not late either is
nothing but a failure. -/
theorem failed_ofResult {result : Result CompileReply} (hnone : ∀ reply, ¬Succeeded result reply) :
    (Outcome.ofResult result).phase = .failed
      ∧ (¬Overdue result → (Outcome.ofResult result).conclusion = .failed) := by
  have hnot : (Outcome.ofResult result).phase ≠ .succeeded := by
    rw [ne_eq, phase_ofResult, not_exists]
    exact hnone
  rcases conclusion_of_phase (Outcome.ofResult result) with ⟨hphase, _⟩ | ⟨hphase, hconclusion⟩
  · exact absurd hphase hnot
  · refine ⟨hphase, fun hlate => hconclusion.resolve_right ?_⟩
    rw [overdue_ofResult]
    exact hlate

end RenderDesk.Service

/-! ## §2. Ends. -/

namespace RenderDesk.Session

open RenderDesk.Artifact (stamped le_next)
open RenderDesk.Http (Link Response)
open RenderDesk.Service
open RenderDesk.Terminal (Incoming)

/-- How a render in flight comes to its end with a result at a reading of the
clock; `earlier` are the stamps of the artifacts before it. -/
structure Concluded (earlier : List UInt64) (result : Result CompileReply) (now : UInt64)
    (s s' : State) : Prop where
  landed : s'.render.inFlight = none ∧ s'.render.phase.inFlight = false
  succeeded : s'.render.phase = .succeeded ↔ ∃ reply, Succeeded result reply
  newArtifact : s'.render.conclusion = some .newArtifact ↔ ∃ url, Brings result url
  /-- The artifact gets a stamp that is past the clock and all stamps so far, up
  to the largest number. -/
  stored : ∀ url, Brings result url → ∃ stamp,
    s'.render.artifactRef = some (stamped url stamp) ∧ now ≤ stamp
      ∧ ∀ before ∈ earlier, before.toNat < 2 ^ 64 - 1 → before < stamp
  /-- Without an artifact the one before is still shown. -/
  kept : (∀ url, ¬Brings result url) → s'.render.artifactRef = s.render.artifactRef
  noArtifact : (∃ reply, Succeeded result reply) → (∀ url, ¬Brings result url) →
    s'.render.conclusion = some .noArtifact
  timedOut : s'.render.conclusion = some .timedOut ↔ Overdue result
  failed : (∀ reply, ¬Succeeded result reply) → s'.render.phase = .failed
    ∧ (¬Overdue result → s'.render.conclusion = some .failed)
  job : (∀ reply, Succeeded result reply → s'.render.jobId = reply.jobId)
    ∧ ((∀ reply, ¬Succeeded result reply) → s'.render.jobId = none)
  log : ∃ pieces ≠ [], s'.render.log = s.render.log ++ pieces
  document : s'.document = s.document
  templates : s'.templates = s.templates ∧ s'.selected = s.selected
  source : s'.source = s.source
  exported : s'.exported = s.exported

/-- The end of a render with a result; `hearlier` says that the last stamp is the
largest so far. -/
theorem ending_concluded {s : State} {earlier : List UInt64} (hjob : s.render.jobId = none)
    (hearlier : ∀ before ∈ earlier, before.toNat ≤ s.stamper.last.toNat)
    (result : Result CompileReply) (now : UInt64) :
    Concluded earlier result now s (s.applyOutcome (.ofResult result) now) := by
  rw [applyOutcome_eq]
  exact
    { landed := by
        refine ⟨rfl, ?_⟩
        show (Outcome.ofResult result).phase.inFlight = false
        rcases conclusion_of_phase (.ofResult result) with ⟨h, _⟩ | ⟨h, _⟩ <;> rw [h] <;> rfl
      succeeded := phase_ofResult result
      newArtifact := Option.some_inj.trans (newArtifact_ofResult result)
      stored := by
        intro url hurl
        have hartifact := (artifact_ofResult result url).2 hurl
        have hclock := UInt64.le_iff_toNat_le.2 (le_next s.stamper now)
        refine ⟨_, ending_stored hartifact _ _, hclock, ?_⟩
        intro before hbefore hroom
        exact lt_next (hearlier before hbefore) hroom now
      kept := by
        intro hnone
        have hartifact : (Outcome.ofResult result).artifact? = none := by
          rw [Option.eq_none_iff_forall_ne_some]
          intro url hurl
          exact hnone url ((artifact_ofResult result url).1 hurl)
        exact ending_kept hartifact _ _
      noArtifact := by
        intro hsuccess hnone
        exact congrArg some (noArtifact_ofResult hsuccess hnone)
      timedOut := Option.some_inj.trans (overdue_ofResult result)
      failed := by
        intro hnone
        obtain ⟨hphase, hconclusion⟩ := failed_ofResult hnone
        exact ⟨hphase, fun hlate => congrArg some (hconclusion hlate)⟩
      job := by
        -- a session in flight shows no job, so none is left over
        show (∀ reply, _ → (Outcome.ofResult result).jobOr s.render.jobId = _)
          ∧ (_ → (Outcome.ofResult result).jobOr s.render.jobId = none)
        rw [hjob]
        exact jobOr_ofResult result
      log := ⟨_, pieces_ne_nil _, rfl⟩
      document := rfl
      templates := ⟨rfl, rfl⟩
      source := rfl
      exported := rfl }

/-! ## §3. Results of a render in flight. -/

/-- **Every result ends the render in flight** as it should, when it is told at
any reading of the clock; and a reply comes from a final response of success
with a readable body, so nothing else is shown as a success. -/
theorem result_concluded (template : String) (acts : List Act) {id : RenderId}
    (hflight : ((State.preferring template).after acts).render.inFlight = some id) :
    (∀ (result : Result CompileReply) (now : UInt64), ∃ m,
      Incoming.ofEvent now (.renderCompleted id result) = some (.message m)
        ∧ (update ((State.preferring template).after acts) m).2 = []
        ∧ Concluded ((State.preferring template).gather State.stamps acts) result now
            ((State.preferring template).after acts)
            (update ((State.preferring template).after acts) m).1)
    ∧ ∀ {σ : Type} (link : Link σ) (settings : Settings) (base : Url) (request : CompileRequest)
        (net net' : σ) (elapsed : Duration),
      (∀ reply : CompileReply,
        (remote link settings base).submit request net = (.after elapsed (.ok reply), net') →
        ∃ url response, Accepted link settings base request net net' reply url response)
      ∧ ∀ (deadline : Option Duration) (result : Result CompileReply) (now : UInt64) (m : Message),
        (remote link settings base).submitWithin deadline request net
            = (.after elapsed result, net') →
        Incoming.ofEvent now (.renderCompleted id result) = some (.message m) →
        (update ((State.preferring template).after acts) m).1.render.phase = .succeeded →
        ∃ reply url response, Succeeded result reply
          ∧ Accepted link settings base request net net' reply url response := by
  have hcoherent := after_coherent template acts
  have hstamps := stamps_le_last (State.preferring template) acts
  -- of the history only coherence and the stamps matter
  generalize (State.preferring template).after acts = s at hflight hcoherent hstamps ⊢
  have hupdate := update_renderCompleted_awaited hflight
  have hjob := hcoherent.render.no_job (hcoherent.render.busy hflight)
  have hends := ending_concluded hjob hstamps
  refine ⟨fun result now => ⟨_, rfl, ?_, ?_⟩, ?_⟩
  · rw [hupdate]
  · rw [hupdate]
    exact hends result now
  · intro σ link settings base request net net' elapsed
    refine ⟨fun reply hsubmit => submit_accepted hsubmit, ?_⟩
    intro deadline result now m hwithin hevent hphase
    cases hevent
    rw [hupdate] at hphase
    -- a success on the screen was reported in a reply, and no deadline makes one
    obtain ⟨reply, hreply, hsuccess⟩ := (hends result now).succeeded.1 hphase
    subst hreply
    obtain ⟨url, response, haccepted⟩ := submit_accepted (submitWithin_ok hwithin)
    exact ⟨reply, url, response, ⟨rfl, hsuccess⟩, haccepted⟩

/-- A session that waits for its first render. -/
def awaiting : List Act := [.message (.templatesLoaded ["t"]), .message .renderRequested]

/-- A response that tells of an artifact. -/
def withArtifact : Response := saying "\x7b\"pdf_url\":\"/a\"\x7d"

/-- A network that answers so, and counts how often it is asked. -/
def answering : Link Nat where
  exchange _ asked := (.now (.ok withArtifact), asked + 1)

theorem answering_submit :
    (remote answering {} depot).submit {} 0 = (.now (.ok { pdfUrl := some "/a" }), 1) := by
  have htext : withArtifact.body.text = .ok "\x7b\"pdf_url\":\"/a\"\x7d" := by
    decide +kernel
  have hreply : readReply "\x7b\"pdf_url\":\"/a\"\x7d" = some { pdfUrl := some "/a" } := by decide
  exact submit_of_answer rfl rfl rfl htext hreply

/-- The artifact arrives and is kept. -/
theorem artifact_concluded :
    ((State.preferring "t").after awaiting).render.inFlight = some 1
      ∧ (∃ m, Incoming.ofEvent 5 (.renderCompleted 1 (.ok { pdfUrl := some "/a" }))
            = some (.message m)
          ∧ Concluded [] (.ok { pdfUrl := some "/a" }) 5 ((State.preferring "t").after awaiting)
            (update ((State.preferring "t").after awaiting) m).1)
      ∧ (remote answering {} depot).submit {} 0 = (.now (.ok { pdfUrl := some "/a" }), 1)
      ∧ ∃ url response, Accepted answering {} depot {} 0 1 { pdfUrl := some "/a" } url response := by
  have hflight : ((State.preferring "t").after awaiting).render.inFlight = some 1 := by decide
  obtain ⟨hresults, hsubmissions⟩ := result_concluded "t" awaiting hflight
  obtain ⟨m, hevent, _, hconcluded⟩ := hresults (.ok { pdfUrl := some "/a" }) 5
  obtain ⟨haccepted, _⟩ := hsubmissions answering {} depot {} 0 1 .zero
  exact ⟨hflight, ⟨m, hevent, hconcluded⟩, answering_submit, haccepted _ answering_submit⟩

end RenderDesk.Session
