/-
  RenderDesk.Proofs.Extracting
  ────────────────────────────
  Only the latest source request counts.

  Several source requests can be under way at once, and their answers come in
  any order, twice, or never.  What a session shows is decided by the latest
  request alone, and by the first answer that has come for it since.

  Main statements:
    * `act_extraction` — an act sends a source request, brings the answer that
      is awaited, or leaves the source alone;
    * `source_latest` — what is shown of the latest request;
    * `pending_after` — a request that is awaited was awaited before, or was
      sent since;
    * `latest_wins` — all of it for every history of a new session.
-/
import RenderDesk.Proofs.History

namespace RenderDesk.Session

open RenderDesk.Service

/-! ## §1. Source requests and their answers. -/

/-- The source request that an effect sends. -/
def Effect.extract? : Effect → Option ExtractId
  | .submitSourceExtract id _ => some id
  | _ => none

/-- The source requests that an act sends. -/
def State.fetches (s : State) (a : Act) : List ExtractId :=
  (s.asks a).filterMap Effect.extract?

/-- The result that an act brings for the source request with a number. -/
def Act.resultFor? (id : ExtractId) : Act → Option (Except String String)
  | .message (.sourceExtracted other result) => if other = id then some result else none
  | _ => none

/-- What is shown of a result. -/
def SourceStatus.ofResult : Except String String → SourceStatus
  | .ok source => .ready source
  | .error reason => .failed reason

/-- What is shown of the source request with a number, by the first result that
has come for it. -/
def SourceStatus.ofFirst (id : ExtractId) : Option (Except String String) → SourceStatus
  | .none => .pending id
  | .some result => .ofResult result

/-- The source request with a number is the latest one; `since` is what has
happened after it. -/
def Latest (start : State) (acts : List Act) (id : ExtractId) (since : List Act) : Prop :=
  ∃ before a, acts = before ++ a :: since ∧ (start.after before).fetches a = [id]
    ∧ (start.after (before ++ [a])).gather State.fetches since = []

theorem ofResult_ne_pending (result : Except String String) (id : ExtractId) :
    SourceStatus.ofResult result ≠ .pending id := by
  cases result <;> simp [SourceStatus.ofResult]

theorem ofResult_injective {result other : Except String String}
    (h : SourceStatus.ofResult result = .ofResult other) : result = other := by
  cases result <;> cases other <;> simp_all [SourceStatus.ofResult]

theorem ofFirst_eq_pending_iff {id other : ExtractId} {first : Option (Except String String)} :
    SourceStatus.ofFirst id first = .pending other ↔ first = none ∧ id = other := by
  cases first with
  | none => simp [SourceStatus.ofFirst]
  | some result => simp [SourceStatus.ofFirst, ofResult_ne_pending]

theorem resultFor?_eq_some_iff {id : ExtractId} {a : Act} {result : Except String String} :
    a.resultFor? id = some result ↔ a = .message (.sourceExtracted id result) := by
  constructor
  · intro h
    unfold Act.resultFor? at h
    split at h
    · next other brought =>
      by_cases hid : other = id
      · rw [if_pos hid] at h
        rw [hid, Option.some.inj h]
      · rw [if_neg hid] at h
        cases h
    · cases h
  · rintro rfl
    simp [Act.resultFor?]

/-! ## §2. What an act does to the source. -/

/-- All that an act can do to the source and to the number of the next source
request. -/
inductive State.Extraction (s : State) (a : Act) : Prop where
  | sent {template : String} :
    a = .message .sourceExtractRequested → s.selected = some template →
    s.fetches a = [s.nextExtract] → (s.act a).source = .pending s.nextExtract →
    (s.act a).nextExtract = s.nextExtract + 1 → Extraction s a
  | answered {id : ExtractId} {result : Except String String} :
    a = .message (.sourceExtracted id result) → s.source = .pending id → s.fetches a = [] →
    (s.act a).source = .ofResult result → (s.act a).nextExtract = s.nextExtract →
    Extraction s a
  /-- An answer that is not awaited leaves the whole state alone. -/
  | kept :
    (∀ id result, a = .message (.sourceExtracted id result) →
      s.source ≠ .pending id ∧ update s (.sourceExtracted id result) = (s, [])) →
    s.fetches a = [] → (s.act a).source = s.source →
    (s.act a).nextExtract = s.nextExtract → Extraction s a

theorem update_extracted_stale {s : State} {id : ExtractId} (h : s.source ≠ .pending id)
    (result : Except String String) : update s (.sourceExtracted id result) = (s, []) := by
  simp only [update, State.noteExtract, h, if_false]

theorem update_extracted_awaited {s : State} {id : ExtractId} (h : s.source = .pending id)
    (result : Except String String) :
    update s (.sourceExtracted id result)
      = ({ s with source := .ofResult result }.touched, []) := by
  simp only [update, State.noteExtract, h, if_true]
  cases result <;> rfl

/-- A message that brings no answer leaves the source alone when it asks for none
and leaves its number. -/
theorem extraction_of_update {s : State} {m : Message}
    (hm : ∀ id result, m ≠ .sourceExtracted id result)
    (heffects : (update s m).2.filterMap Effect.extract? = [])
    (hsource : (update s m).1.source = s.source)
    (hnext : (update s m).1.nextExtract = s.nextExtract) : s.Extraction (.message m) :=
  .kept (fun id result ha => absurd (Act.message.inj ha) (hm id result)) heffects hsource hnext

/-- So does one that changes nothing. -/
theorem extraction_of_idle {s : State} {m : Message}
    (hm : ∀ id result, m ≠ .sourceExtracted id result) (hu : update s m = (s, [])) :
    s.Extraction (.message m) := by
  refine extraction_of_update hm ?_ ?_ ?_ <;> rw [hu]
  rfl

theorem requested_extraction (s : State) : s.Extraction (.message .sourceExtractRequested) := by
  cases hselected : s.selected with
  | none =>
    have hu : update s .sourceExtractRequested = (s, []) := by
      simp only [update, State.requestExtract, hselected]
    exact extraction_of_idle (by simp) hu
  | some template =>
    have hu : update s .sourceExtractRequested
        = (s.beginExtract, [.submitSourceExtract s.nextExtract (s.request template false)]) := by
      simp only [update, State.requestExtract, hselected]
    refine .sent rfl hselected ?_ ?_ ?_
    · simp only [State.fetches, State.asks, hu]
      rfl
    · simp only [State.act, hu]
      rfl
    · simp only [State.act, hu]
      rfl

theorem answered_extraction (s : State) (id : ExtractId) (result : Except String String) :
    s.Extraction (.message (.sourceExtracted id result)) := by
  by_cases hid : s.source = .pending id
  · have hu := update_extracted_awaited hid result
    refine .answered rfl hid ?_ ?_ ?_
    · simp only [State.fetches, State.asks, hu, List.filterMap_nil]
    · simp only [State.act, hu]
      rfl
    · simp only [State.act, hu]
      rfl
  · have hu := update_extracted_stale hid result
    refine .kept ?_ ?_ ?_ ?_
    · intro other brought ha
      injection ha with hm
      injection hm with hother
      rw [← hother]
      exact ⟨hid, update_extracted_stale hid brought⟩
    · simp only [State.fetches, State.asks, hu, List.filterMap_nil]
    · simp only [State.act, hu]
    · simp only [State.act, hu]

/-- **An act sends a source request, brings the answer that is awaited, or leaves
the source alone.** -/
theorem act_extraction (s : State) (a : Act) : s.Extraction a := by
  cases a with
  | look => exact .kept (by simp) rfl rfl rfl
  | message m =>
    cases m with
    | sourceExtractRequested => exact requested_extraction s
    | sourceExtracted id result => exact answered_extraction s id result
    | renderCompleted id outcome now =>
      by_cases hid : s.render.inFlight = some id
      · have hu := update_renderCompleted_awaited hid outcome now
        rw [applyOutcome_eq] at hu
        refine extraction_of_update (by simp) ?_ ?_ ?_ <;> rw [hu]
        rfl
      · exact extraction_of_idle (by simp) (update_renderCompleted_stale hid outcome now)
    | _ =>
      refine extraction_of_update (by simp) ?_ ?_ ?_ <;>
        (simp only [update, State.noteSaved, State.select, State.requestRender,
           State.markCompiling, State.clearLog, State.requestExport, State.noteExport]
         repeat' split
         all_goals rfl)

/-! ## §3. The latest source request. -/

/-- The counter of source requests is drawn from one at a time. -/
theorem fetches_drawn (start : State) (acts : List Act) (a : Act) :
    ((start.after acts).fetches a = [(start.after acts).nextExtract]
        ∧ ((start.after acts).act a).nextExtract = (start.after acts).nextExtract + 1)
      ∨ ((start.after acts).fetches a = []
        ∧ ((start.after acts).act a).nextExtract = (start.after acts).nextExtract) := by
  cases act_extraction (start.after acts) a with
  | sent _ _ hfetches _ hnext => exact .inl ⟨hfetches, hnext⟩
  | answered _ _ hfetches _ hnext | kept _ hfetches _ hnext => exact .inr ⟨hfetches, hnext⟩

/-- The source requests of a history have growing numbers, as long as these, of
64 bits each, last. -/
theorem fetches_increasing {start : State} (hstart : start.nextExtract = 1) {acts : List Act}
    (hlen : (start.gather State.fetches acts).length < 2 ^ 64 - 1) :
    (start.gather State.fetches acts).Pairwise (· < ·) := by
  obtain ⟨_, hids⟩ :=
    gather_numbered State.fetches State.nextExtract hstart (fetches_drawn start) acts hlen
  have hgrow : ((start.gather State.fetches acts).map UInt64.toNat).Pairwise (· < ·) := by
    rw [hids]
    exact List.pairwise_lt_range'
  exact (List.pairwise_map.1 hgrow).imp UInt64.lt_iff_toNat_lt.2

theorem Latest.mem_gather {start : State} {acts since : List Act} {id : ExtractId}
    (h : Latest start acts id since) : id ∈ start.gather State.fetches acts := by
  obtain ⟨before, a, rfl, hsent, _⟩ := h
  rw [gather_append, gather_cons, hsent]
  simp

/-- The latest request stays the latest when more has happened before it. -/
theorem Latest.behind {start : State} {before acts since : List Act} {id : ExtractId}
    (h : Latest (start.after before) acts id since) : Latest start (before ++ acts) id since := by
  obtain ⟨middle, a, rfl, hsent, hquiet⟩ := h
  refine ⟨before ++ middle, a, (List.append_assoc _ _ _).symm, ?_, ?_⟩
  · rw [after_append]
    exact hsent
  · rw [List.append_assoc, after_append]
    exact hquiet

/-- There was no source request, or one of them is the latest. -/
theorem latest_of_fetches {start : State} {acts : List Act}
    (h : start.gather State.fetches acts ≠ []) : ∃ id since, Latest start acts id since := by
  induction acts using List.reverseRecOn with
  | nil => exact absurd rfl h
  | append_singleton acts a ih =>
    cases act_extraction (start.after acts) a with
    | sent _ _ hfetches => exact ⟨_, [], acts, a, rfl, hfetches, rfl⟩
    | answered _ _ hfetches | kept _ hfetches =>
      rw [gather_snoc, hfetches, List.append_nil] at h
      obtain ⟨id, since, before, b, rfl, hb, hquiet⟩ := ih h
      refine ⟨id, since ++ [a], before, b, by simp, hb, ?_⟩
      rw [gather_snoc, hquiet, ← after_append, List.append_assoc]
      exact hfetches

/-- **What is shown of the latest request** is the first answer to it, and until
that has come, that it is awaited. -/
theorem source_latest {start : State} {acts : List Act} {id : ExtractId} {since : List Act}
    (h : Latest start acts id since) :
    (start.after acts).source = .ofFirst id (since.findSome? (Act.resultFor? id)) := by
  obtain ⟨before, a, rfl, hsent, hquiet⟩ := h
  induction since using List.reverseRecOn with
  | nil =>
    rw [after_snoc]
    cases act_extraction (start.after before) a with
    | sent _ _ hfetches hsource =>
      rw [hfetches] at hsent
      rw [hsource, List.head_eq_of_cons_eq hsent]
      rfl
    | answered _ _ hfetches | kept _ hfetches =>
      rw [hfetches] at hsent
      cases hsent
  | append_singleton since b ih =>
    rw [gather_snoc, List.append_eq_nil_iff, ← after_append, List.append_assoc] at hquiet
    have hbefore := ih hquiet.1
    rw [← List.cons_append, ← List.append_assoc, after_snoc, List.findSome?_append,
      List.findSome?_singleton]
    cases act_extraction (start.after (before ++ a :: since)) b with
    | sent _ _ hfetches =>
      rw [List.singleton_append, hfetches] at hquiet
      cases hquiet.2
    | answered hb hid _ hsource =>
      -- the request is still awaited, so this is the first answer to it
      rw [hbefore, ofFirst_eq_pending_iff] at hid
      obtain ⟨hnone, rfl⟩ := hid
      rw [hsource, hnone, resultFor?_eq_some_iff.2 hb]
      rfl
    | kept hb _ hsource _ =>
      rw [hsource, hbefore]
      cases hfirst : since.findSome? (Act.resultFor? id) with
      | some result => rfl
      | none =>
        cases hlast : b.resultFor? id with
        | none => rfl
        | some result =>
          -- an answer to a request that is awaited is not left alone
          rw [hfirst] at hbefore
          exact absurd hbefore (hb id result (resultFor?_eq_some_iff.1 hlast)).1

/-- Without a source request there is none to show. -/
theorem source_of_unfetched {start : State} (hstart : start.source = .none) {acts : List Act}
    (h : start.gather State.fetches acts = []) : (start.after acts).source = .none := by
  induction acts using List.reverseRecOn with
  | nil => exact hstart
  | append_singleton acts a ih =>
    rw [gather_snoc, List.append_eq_nil_iff] at h
    rw [after_snoc]
    cases act_extraction (start.after acts) a with
    | sent _ _ hfetches =>
      rw [hfetches] at h
      cases h.2
    | answered _ hid =>
      rw [ih h.1] at hid
      cases hid
    | kept _ _ hsource => exact hsource.trans (ih h.1)

/-- An answer leaves its request behind. -/
theorem act_not_pending {s : State} {a : Act} {id : ExtractId} {result : Except String String}
    (ha : a.resultFor? id = some result) : (s.act a).source ≠ .pending id := by
  rw [resultFor?_eq_some_iff] at ha
  intro hpending
  cases act_extraction s a with
  | sent hrequest =>
    rw [ha] at hrequest
    cases hrequest
  | answered _ _ _ hsource =>
    rw [hsource] at hpending
    exact ofResult_ne_pending _ _ hpending
  | kept hstale _ hsource =>
    rw [hsource] at hpending
    exact (hstale id result ha).1 hpending

/-- **A request that is awaited was awaited before, or was sent since.** -/
theorem pending_after {s : State} {acts : List Act} {id : ExtractId}
    (h : (s.after acts).source = .pending id) :
    s.source = .pending id ∨ id ∈ s.gather State.fetches acts := by
  induction acts using List.reverseRecOn with
  | nil => exact .inl h
  | append_singleton acts a ih =>
    rw [after_snoc] at h
    rw [gather_snoc]
    cases act_extraction (s.after acts) a with
    | sent _ _ hfetches hsource =>
      rw [hsource] at h
      injection h with hid
      rw [hfetches, hid]
      exact .inr List.mem_concat_self
    | answered _ _ _ hsource =>
      rw [hsource] at h
      exact absurd h (ofResult_ne_pending _ _)
    | kept _ _ hsource =>
      rw [hsource] at h
      exact (ih h).imp_right (List.mem_append_left _)

/-- **Awaited is the latest request**, as long as no answer to it has come. -/
theorem pending_iff {start : State} (hstart : start.source = .none) {acts : List Act}
    {id : ExtractId} :
    (start.after acts).source = .pending id
      ↔ ∃ since, Latest start acts id since ∧ since.findSome? (Act.resultFor? id) = none := by
  constructor
  · intro hpending
    have hfetches : start.gather State.fetches acts ≠ [] := by
      intro hnone
      rw [source_of_unfetched hstart hnone] at hpending
      cases hpending
    obtain ⟨latest, since, hlatest⟩ := latest_of_fetches hfetches
    rw [source_latest hlatest, ofFirst_eq_pending_iff] at hpending
    obtain ⟨hnone, rfl⟩ := hpending
    exact ⟨since, hlatest, hnone⟩
  · rintro ⟨since, hlatest, hnone⟩
    rw [source_latest hlatest, hnone]
    rfl

/-- A result that is shown is the first answer to the latest request. -/
theorem first_of_shown {start : State} (hstart : start.source = .none) {acts : List Act}
    {result : Except String String} (h : (start.after acts).source = .ofResult result) :
    ∃ id since, Latest start acts id since
      ∧ since.findSome? (Act.resultFor? id) = some result := by
  have hfetches : start.gather State.fetches acts ≠ [] := by
    intro hnone
    rw [source_of_unfetched hstart hnone] at h
    cases result <;> cases h
  obtain ⟨id, since, hlatest⟩ := latest_of_fetches hfetches
  refine ⟨id, since, hlatest, ?_⟩
  rw [source_latest hlatest] at h
  cases hfirst : since.findSome? (Act.resultFor? id) with
  | none =>
    rw [hfirst] at h
    exact absurd h.symm (ofResult_ne_pending result id)
  | some first =>
    rw [hfirst] at h
    rw [ofResult_injective h]

/-! ## §4. Answers that do not count. -/

section Answers

variable {start : State} {before since : List Act} {a : Act} {id : ExtractId}

/-- A number that was drawn does not come again. -/
theorem fetches_once
    (hgrow : (start.gather State.fetches (before ++ a :: since)).Pairwise (· < ·))
    (hsent : id ∈ (start.after before).fetches a) :
    id ∉ (start.after (before ++ [a])).gather State.fetches since := by
  intro hagain
  rw [gather_append, gather_cons] at hgrow
  have hrest := (List.pairwise_append.1 (List.pairwise_append.1 hgrow).2.1).2.2
  rw [after_snoc] at hagain
  exact absurd (hrest id hsent id hagain) (UInt64.lt_irrefl id)

/-- A request is not awaited any more when another one was sent after it. -/
theorem not_pending_of_later
    (hgrow : (start.gather State.fetches (before ++ a :: since)).Pairwise (· < ·))
    (hsent : id ∈ (start.after before).fetches a)
    (hlater : (start.after (before ++ [a])).gather State.fetches since ≠ []) :
    (start.after (before ++ a :: since)).source ≠ .pending id := by
  intro hpending
  obtain ⟨latest, rest, hlatest⟩ := latest_of_fetches hlater
  have hwhole : Latest start (before ++ a :: since) latest rest := by
    rw [← List.singleton_append, ← List.append_assoc]
    exact hlatest.behind
  -- the latest request was sent after this one, so its number is another
  rw [source_latest hwhole, ofFirst_eq_pending_iff] at hpending
  obtain ⟨_, rfl⟩ := hpending
  exact fetches_once hgrow hsent hlatest.mem_gather

/-- Nor is one that was answered. -/
theorem not_pending_of_answered
    (hgrow : (start.gather State.fetches (before ++ a :: since)).Pairwise (· < ·))
    (hsent : id ∈ (start.after before).fetches a) {b : Act} (hb : b ∈ since)
    {result : Except String String} (hanswer : b.resultFor? id = some result) :
    (start.after (before ++ a :: since)).source ≠ .pending id := by
  intro hpending
  obtain ⟨middle, rest, rfl⟩ := List.append_of_mem hb
  have honce := fetches_once hgrow hsent
  have hsplit : before ++ a :: (middle ++ b :: rest) = (before ++ [a] ++ middle ++ [b]) ++ rest := by
    simp
  rw [hsplit, after_append] at hpending
  rcases pending_after hpending with hleft | hagain
  · rw [after_snoc] at hleft
    exact act_not_pending hanswer hleft
  · rw [gather_append, gather_cons] at honce
    rw [after_snoc, after_append] at hagain
    exact honce (List.mem_append_right _ (List.mem_append_right _ hagain))

end Answers

/-! ## §5. Only the latest request counts. -/

/-- Whether a message asks for the source, or answers such a request. -/
def Message.isExtract : Message → Bool
  | .sourceExtractRequested | .sourceExtracted _ _ => true
  | _ => false

/-- Only the latest source request counts, for a session that was in a state once
and for what has happened to it since. -/
structure LatestWins (start : State) (acts : List Act) : Prop where
  /-- The requests are sent with growing numbers. -/
  increasing : (start.gather State.fetches acts).Pairwise (· < ·)
  /-- Of the latest one the first answer is shown that has come since. -/
  shown : ∀ id since, Latest start acts id since →
    (start.after acts).source = .ofFirst id (since.findSome? (Act.resultFor? id))
  /-- No other result is ever shown. -/
  only : ∀ result, (start.after acts).source = .ofResult result →
    ∃ id since, Latest start acts id since
      ∧ since.findSome? (Act.resultFor? id) = some result
  /-- The first answer to the latest request changes the state, and no other
  answer does. -/
  counts : ∀ id result,
    (update (start.after acts) (.sourceExtracted id result)).1 ≠ start.after acts
      ↔ ∃ since, Latest start acts id since ∧ since.findSome? (Act.resultFor? id) = none
  /-- An answer to a request that was followed by another changes nothing. -/
  older : ∀ before a since id, acts = before ++ a :: since →
    id ∈ (start.after before).fetches a →
    (start.after (before ++ [a])).gather State.fetches since ≠ [] →
    ∀ result, update (start.after acts) (.sourceExtracted id result) = (start.after acts, [])
  /-- Nor does one to a request that was answered. -/
  repeated : ∀ before a since id, acts = before ++ a :: since →
    id ∈ (start.after before).fetches a →
    ∀ b ∈ since, (b.resultFor? id).isSome = true →
    ∀ result, update (start.after acts) (.sourceExtracted id result) = (start.after acts, [])
  /-- Nor does one to a request that was never sent. -/
  unknown : ∀ id, id ∉ start.gather State.fetches acts →
    ∀ result, update (start.after acts) (.sourceExtracted id result) = (start.after acts, [])
  /-- Requests and answers change the source, its number and the mark of change,
  and nothing else. -/
  apart : ∀ m, m.isExtract = true →
    (update (start.after acts) m).1
      = { start.after acts with
          source := (update (start.after acts) m).1.source
          nextExtract := (update (start.after acts) m).1.nextExtract
          dirty := (update (start.after acts) m).1.dirty }

theorem update_extracted_changes {s : State} {id : ExtractId} {result : Except String String} :
    (update s (.sourceExtracted id result)).1 ≠ s ↔ s.source = .pending id := by
  constructor
  · intro hnew
    by_contra hid
    rw [update_extracted_stale hid] at hnew
    exact hnew rfl
  · intro hid hsame
    rw [update_extracted_awaited hid] at hsame
    have hsource : SourceStatus.ofResult result = s.source := congrArg State.source hsame
    rw [hid] at hsource
    exact ofResult_ne_pending result id hsource

theorem update_extract_apart (s : State) {m : Message} (h : m.isExtract = true) :
    (update s m).1
      = { s with
          source := (update s m).1.source
          nextExtract := (update s m).1.nextExtract
          dirty := (update s m).1.dirty } := by
  cases m with
  | sourceExtractRequested =>
    simp only [update, State.requestExtract]
    split <;> rfl
  | sourceExtracted id result =>
    simp only [update, State.noteExtract]
    split <;> rfl
  | _ => cases h

/-- **Only the latest source request of a session counts**, whatever has happened
to it, as long as its source requests can be numbered with 64 bits each. -/
theorem latest_wins (template : String) (acts : List Act)
    (hlen : ((State.preferring template).gather State.fetches acts).length < 2 ^ 64 - 1) :
    LatestWins (.preferring template) acts := by
  have hstart : (State.preferring template).source = .none := rfl
  have hnext : (State.preferring template).nextExtract = 1 := rfl
  have hgrow := fetches_increasing hnext hlen
  exact {
    increasing := hgrow
    shown := fun id since hlatest => source_latest hlatest
    only := fun result hshown => first_of_shown hstart hshown
    counts := by
      intro id result
      rw [update_extracted_changes, pending_iff hstart]
    older := by
      rintro before a since id rfl hsent hlater result
      exact update_extracted_stale (not_pending_of_later hgrow hsent hlater) result
    repeated := by
      rintro before a since id rfl hsent b hb hanswer result
      obtain ⟨earlier, hearlier⟩ := Option.isSome_iff_exists.1 hanswer
      exact update_extracted_stale (not_pending_of_answered hgrow hsent hb hearlier) result
    unknown := by
      intro id hid result
      refine update_extracted_stale ?_ result
      intro hpending
      rcases pending_after hpending with hleft | hsent
      · cases hleft
      · exact hid hsent
    apart := fun m hm => update_extract_apart _ hm }

/-- Two source requests, the first of which is answered later, and a render. -/
def twoExtracts : List Act :=
  [.message (.templatesLoaded ["t"]), .message .sourceExtractRequested,
    .message .renderRequested, .message .sourceExtractRequested,
    .message (.sourceExtracted 2 (.error "http status 404")), .look,
    .message (.sourceExtracted 1 (.ok "old"))]

/-- The failure of the second one is shown, and neither request is awaited. -/
theorem second_extract_shown :
    ((State.preferring "t").gather State.fetches twoExtracts).length < 2 ^ 64 - 1
      ∧ ((State.preferring "t").after twoExtracts).source = .failed "http status 404"
      ∧ ∀ result, update ((State.preferring "t").after twoExtracts) (.sourceExtracted 1 result)
          = ((State.preferring "t").after twoExtracts, []) := by
  have hlen : ((State.preferring "t").gather State.fetches twoExtracts).length < 2 ^ 64 - 1 := by
    decide
  have hwins := latest_wins "t" twoExtracts hlen
  have hlatest : Latest (.preferring "t") twoExtracts 2 (twoExtracts.drop 4) :=
    ⟨twoExtracts.take 3, .message .sourceExtractRequested, rfl, by decide, by decide⟩
  refine ⟨hlen, hwins.shown 2 _ hlatest, hwins.older (twoExtracts.take 1) _ (twoExtracts.drop 2) 1
    rfl ?_ ?_⟩
  · decide
  · decide

end RenderDesk.Session
