/-
  RenderDesk.Proofs.SingleFlight
  ──────────────────────────────
  A session has one render in flight at a time, over its whole history.

  A render is sent, and one day its end is reported.  Reports may come twice,
  too late, too early or for renders that were never sent; only the report of
  the render that was sent last, and not reported since, counts.

  Main statements:
    * `act_flight` — an act sends a render, brings one to its end, or leaves
      what is in flight alone;
    * `sent_eq_landed` — the renders that were sent are those that came to
      their end and the one in flight, in this order;
    * `inFlight_iff_awaited` — what is in flight is what was sent and not
      reported since;
    * `single_flight` — all of it for every history of a new session.
-/
import Mathlib.Algebra.Group.Nat.Defs
import Mathlib.Data.List.Induction
import RenderDesk.Proofs.History

namespace RenderDesk.Session

open RenderDesk.Service

/-! ## §1. Renders that are sent, and renders that land. -/

/-- The renders that an act sends. -/
def State.sends (s : State) (a : Act) : List (RenderId × CompileRequest) :=
  (s.asks a).filterMap Effect.render?

/-- The render whose end an act reports. -/
def Act.completed? : Act → Option RenderId
  | .message (.renderCompleted id _ _) => some id
  | _ => none

/-- The render that an act brings to its end: the report changes the state. -/
def State.lands (s : State) (a : Act) : List RenderId :=
  if s.act a = s then [] else a.completed?.toList

/-- A render was sent, and its end has not been reported since. -/
def Awaited (start : State) (acts : List Act) (id : RenderId) : Prop :=
  ∃ before a since, acts = before ++ a :: since
    ∧ id ∈ ((start.after before).sends a).map Prod.fst
    ∧ ∀ b ∈ since, b.completed? ≠ some id

/-! ## §2. What an act does to the flight. -/

/-- All that an act can do to the render in flight. -/
inductive State.Flight (s : State) (a : Act) : Prop where
  | sent {template : String} :
      a = .message .renderRequested → s.render.inFlight = none → s.selected = some template →
      s.sends a = [(s.nextRender, s.request template true)] → s.lands a = [] →
      (s.act a).render.inFlight = some s.nextRender → (s.act a).nextRender = s.nextRender + 1 →
      Flight s a
  | landed {id : RenderId} :
      a.completed? = some id → s.render.inFlight = some id → s.sends a = [] →
      s.lands a = [id] → (s.act a).render.inFlight = none →
      (s.act a).nextRender = s.nextRender → Flight s a
  | kept :
      (∀ id, a.completed? = some id → s.render.inFlight ≠ some id) → s.sends a = [] →
      s.lands a = [] → (s.act a).render.inFlight = s.render.inFlight →
      (s.act a).nextRender = s.nextRender → Flight s a

theorem completed?_eq_some_iff {a : Act} {id : RenderId} :
    a.completed? = some id ↔ ∃ outcome now, a = .message (.renderCompleted id outcome now) := by
  constructor
  · intro h
    unfold Act.completed? at h
    split at h
    · next outcome now =>
      rw [Option.some.inj h]
      exact ⟨outcome, now, rfl⟩
    · cases h
  · rintro ⟨outcome, now, rfl⟩
    rfl

/-- An act that reports no end lands nothing. -/
theorem lands_of_unreported {s : State} {a : Act} (h : a.completed? = none) : s.lands a = [] := by
  unfold State.lands
  rw [h]
  exact ite_self []

/-- A message that asks for nothing and reports no end leaves the flight alone
when it leaves its number and the next one. -/
theorem flight_of_update {s t : State} {m : Message} (hu : update s m = (t, []))
    (hc : (Act.message m).completed? = none) (hf : t.render.inFlight = s.render.inFlight)
    (hn : t.nextRender = s.nextRender) : s.Flight (.message m) := by
  refine .kept ?_ ?_ (lands_of_unreported hc) ?_ ?_
  · intro id hid
    rw [hc] at hid
    cases hid
  · simp only [State.sends, State.asks, hu, List.filterMap_nil]
  · simp only [State.act, hu, hf]
  · simp only [State.act, hu, hn]

theorem ended_flight {s : State} {id : RenderId} {outcome : Outcome} {now : UInt64}
    (hid : s.render.inFlight = some id)
    (hu : update s (.renderCompleted id outcome now) = (s.applyOutcome outcome now, [])) :
    s.Flight (.message (.renderCompleted id outcome now)) := by
  have hact : s.act (.message (.renderCompleted id outcome now)) = s.applyOutcome outcome now := by
    simp only [State.act, hu]
  have hlanded : (s.applyOutcome outcome now).render.inFlight = none := by
    rw [applyOutcome_eq]
    rfl
  have hnew : s.applyOutcome outcome now ≠ s := by
    intro hsame
    rw [hsame, hid] at hlanded
    cases hlanded
  refine .landed rfl hid ?_ ?_ ?_ ?_
  · simp only [State.sends, State.asks, hu, List.filterMap_nil]
  · rw [State.lands, hact, if_neg hnew]
    rfl
  · rw [hact, hlanded]
  · rw [hact, applyOutcome_eq]

/-- **An act sends a render, brings one to its end, or leaves what is in flight
alone.** -/
theorem act_flight {s : State} (h : s.Coherent) (a : Act) : s.Flight a := by
  cases a with
  | look =>
    refine .kept ?_ rfl (lands_of_unreported rfl) rfl rfl
    rintro id ⟨⟩
  | message m =>
    cases update_turn s m with
    | begun hm hfree hsel hu =>
      subst hm
      refine .sent rfl (h.render.inFlight_eq_none.2 hfree) hsel ?_ (lands_of_unreported rfl) ?_ ?_
      · simp only [State.sends, State.asks, hu]
        rfl
      · simp only [State.act, hu]
        rfl
      · simp only [State.act, hu]
        rfl
    | unsent hm hfree hsel hu =>
      subst hm
      exact flight_of_update hu rfl rfl rfl
    | dispatched hm hid hphase hu =>
      subst hm
      exact flight_of_update hu rfl rfl rfl
    | ended hm hid hu =>
      subst hm
      exact ended_flight hid hu
    | cleared hm hu =>
      subst hm
      exact flight_of_update hu rfl rfl rfl
    | apart hstale hrender hnext hstamper hsends =>
      refine .kept ?_ hsends ?_ (congrArg Render.inFlight hrender) hnext
      · intro id hid
        obtain ⟨outcome, now, hm⟩ := completed?_eq_some_iff.1 hid
        exact (hstale id outcome now (Act.message.inj hm)).1
      · -- an end that is not awaited changes nothing, so it lands nothing either
        cases hc : (Act.message m).completed? with
        | none => exact lands_of_unreported hc
        | some id =>
          obtain ⟨outcome, now, hm⟩ := completed?_eq_some_iff.1 hc
          have hu := (hstale id outcome now (Act.message.inj hm)).2
          simp only [State.lands, State.act, hu, if_true]

/-! ## §3. Whole histories. -/

theorem mem_sends {s : State} (h : s.Coherent) {a : Act} {id : RenderId}
    {request : CompileRequest} (hs : (id, request) ∈ s.sends a) :
    a = .message .renderRequested ∧ s.render.inFlight = none ∧ id = s.nextRender
      ∧ ∃ template, s.selected = some template ∧ request = s.request template true := by
  cases act_flight h a with
  | sent ha hnone hsel hsends hlands hin hnext =>
    rw [hsends, List.mem_singleton] at hs
    injection hs with hid hrequest
    exact ⟨ha, hnone, hid, _, hsel, hrequest⟩
  | landed hc hid hsends hlands hin hnext =>
    rw [hsends] at hs
    cases hs
  | kept hc hsends hlands hin hnext =>
    rw [hsends] at hs
    cases hs

/-- What an act sends and what was in flight before either comes to its end or
is in flight after it. -/
theorem act_sent_eq_landed {s : State} (h : s.Coherent) (a : Act) :
    s.render.inFlight.toList ++ (s.sends a).map Prod.fst
      = s.lands a ++ (s.act a).render.inFlight.toList := by
  cases act_flight h a with
  | sent ha hnone hsel hsends hlands hin hnext =>
    rw [hnone, hsends, hlands, hin]
    rfl
  | landed hc hid hsends hlands hin hnext =>
    rw [hid, hsends, hlands, hin]
    rfl
  | kept hc hsends hlands hin hnext =>
    rw [hsends, hlands, hin]
    exact List.append_nil _

/-- **No render is lost and none comes back twice**: what was in flight and
what was sent since has come to its end in the same order, but for the last,
which may be in flight. -/
theorem sent_eq_landed {s : State} (h : s.Coherent) (acts : List Act) :
    s.render.inFlight.toList ++ (s.gather State.sends acts).map Prod.fst
      = s.gather State.lands acts ++ (s.after acts).render.inFlight.toList := by
  induction acts generalizing s with
  | nil => exact List.append_nil _
  | cons a acts ih =>
    have hact := act_sent_eq_landed h a
    have hrest := ih (act_coherent h a)
    calc s.render.inFlight.toList ++ (s.gather State.sends (a :: acts)).map Prod.fst
        = (s.render.inFlight.toList ++ (s.sends a).map Prod.fst)
            ++ ((s.act a).gather State.sends acts).map Prod.fst := by
          rw [gather_cons, List.map_append, List.append_assoc]
      _ = s.lands a ++ ((s.act a).render.inFlight.toList
            ++ ((s.act a).gather State.sends acts).map Prod.fst) := by
          rw [hact, List.append_assoc]
      _ = s.gather State.lands (a :: acts) ++ (s.after (a :: acts)).render.inFlight.toList := by
          rw [hrest, gather_cons, after_cons, List.append_assoc]

theorem awaited_snoc {start : State} {acts : List Act} {a : Act} {id : RenderId} :
    Awaited start (acts ++ [a]) id
      ↔ id ∈ ((start.after acts).sends a).map Prod.fst
        ∨ (Awaited start acts id ∧ a.completed? ≠ some id) := by
  constructor
  · rintro ⟨before, b, since, heq, hsent, hquiet⟩
    -- the sending is the last act, or the last act has come since
    rcases List.eq_nil_or_concat since with rfl | ⟨since, c, rfl⟩
    · obtain ⟨rfl, hab⟩ := List.append_inj' heq rfl
      obtain rfl : a = b := by simpa using hab
      exact .inl hsent
    · rw [List.concat_eq_append, ← List.cons_append, ← List.append_assoc] at heq
      obtain ⟨rfl, hac⟩ := List.append_inj' heq rfl
      obtain rfl : a = c := by simpa using hac
      refine .inr ⟨⟨before, b, since, rfl, hsent, ?_⟩, ?_⟩
      · intro d hd
        exact hquiet d (by simp [hd])
      · exact hquiet a (by simp)
  · rintro (hsent | ⟨⟨before, b, since, rfl, hsent, hquiet⟩, hlast⟩)
    · refine ⟨acts, a, [], rfl, hsent, ?_⟩
      intro d hd
      cases hd
    · refine ⟨before, b, since ++ [a], by simp, hsent, ?_⟩
      intro d hd
      rcases List.mem_append.1 hd with hd | hd
      · exact hquiet d hd
      · rw [List.mem_singleton.1 hd]
        exact hlast

/-- **What is in flight is what was sent and not reported since.** -/
theorem inFlight_iff_awaited {start : State} (h : start.Coherent)
    (hstart : start.render.inFlight = none) (acts : List Act) (id : RenderId) :
    (start.after acts).render.inFlight = some id ↔ Awaited start acts id := by
  -- from the end: the last act alone can change what is in flight and what is awaited
  induction acts using List.reverseRecOn with
  | nil =>
    constructor
    · intro hid
      rw [after_nil, hstart] at hid
      cases hid
    · rintro ⟨before, a, since, heq, _⟩
      simp at heq
  | append_singleton acts a ih =>
    rw [awaited_snoc, ← ih, after_snoc]
    have hs : (start.after acts).Coherent := foldl_act_coherent h acts
    cases act_flight hs a with
    | sent ha hnone hsel hsends hlands hin hnext =>
      rw [hsends, hin, hnone]
      simp [eq_comm]
    | landed hc hid hsends hlands hin hnext =>
      rw [hsends, hin, hid, hc]
      simp
    | kept hc hsends hlands hin hnext =>
      rw [hsends, hin]
      constructor
      · intro hid
        exact .inr ⟨hid, fun hcid => hc id hcid hid⟩
      · rintro (hmem | ⟨hid, _⟩)
        · cases hmem
        · exact hid

/-! ## §4. Numbers. -/

theorem sends_length_le {s : State} (h : s.Coherent) (a : Act) :
    (s.sends a).length ≤ a.message?.toList.length := by
  cases act_flight h a with
  | sent ha hnone hsel hsends hlands hin hnext =>
    rw [hsends, ha]
    exact Nat.le_refl 1
  | landed hc hid hsends hlands hin hnext =>
    rw [hsends]
    exact Nat.zero_le _
  | kept hc hsends hlands hin hnext =>
    rw [hsends]
    exact Nat.zero_le _

/-- No more renders are sent than messages come. -/
theorem sent_length_le {s : State} (h : s.Coherent) (acts : List Act) :
    (s.gather State.sends acts).length ≤ (messages acts).length := by
  induction acts generalizing s with
  | nil => exact Nat.le_refl 0
  | cons a acts ih =>
    rw [gather_cons, messages_cons, List.length_append, List.length_append]
    exact Nat.add_le_add (sends_length_le h a) (ih (act_coherent h a))

/-- The renders of a history are numbered from one, as long as the numbers, of
64 bits each, last. -/
theorem sent_numbered {start : State} (h : start.Coherent) (hstart : start.nextRender = 1)
    (acts : List Act) (hlen : (start.gather State.sends acts).length < 2 ^ 64 - 1) :
    (start.after acts).nextRender.toNat = (start.gather State.sends acts).length + 1
      ∧ (start.gather State.sends acts).map (fun sent => sent.1.toNat)
        = List.range' 1 (start.gather State.sends acts).length := by
  have hids := gather_map State.sends Prod.fst start acts
  have hnumbered := gather_numbered (fun s a => (s.sends a).map Prod.fst) State.nextRender
    hstart (fun before a => ?_) acts (by rw [hids, List.length_map]; exact hlen)
  · rw [hids, List.length_map, List.map_map] at hnumbered
    exact hnumbered
  · have hs : (start.after before).Coherent := foldl_act_coherent h before
    cases act_flight hs a with
    | sent ha hnone hsel hsends hlands hin hnext =>
      refine .inl ⟨?_, hnext⟩
      rw [hsends]
      rfl
    | landed hc hid hsends hlands hin hnext | kept hc hsends hlands hin hnext =>
      refine .inr ⟨?_, hnext⟩
      rw [hsends]
      rfl

/-! ## §5. One render at a time. -/

/-- One render in flight at a time, for a session that was in a state once and
for what has happened to it since. -/
structure SingleFlight (start : State) (acts : List Act) : Prop where
  /-- The renders are numbered from one, in the order in which they were sent. -/
  numbers : (start.gather State.sends acts).map (fun sent => sent.1.toNat)
    = List.range' 1 (start.gather State.sends acts).length
  /-- A render is sent on a request only, with the text and the template of that
  moment. -/
  requests : ∀ a id request, (id, request) ∈ (start.after acts).sends a →
    a = .message .renderRequested ∧ ∃ template, (start.after acts).selected = some template
      ∧ request = { content := (start.after acts).document.text, template, compile := true }
  /-- In flight is the render that was sent and not reported since. -/
  current : ∀ id, (start.after acts).render.inFlight = some id ↔ Awaited start acts id
  /-- Its report, and no other, changes the state. -/
  counts : ∀ id outcome now,
    (update (start.after acts) (.renderCompleted id outcome now)).1 ≠ start.after acts
      ↔ Awaited start acts id
  /-- Between a render and the next one, exactly one report has counted: that of
  the former. -/
  between : ∀ before a since b, acts = before ++ a :: since →
    ∀ id request, (id, request) ∈ (start.after before).sends a →
      (start.after (before ++ [a])).gather State.sends since = [] →
      (start.after acts).sends b ≠ [] →
      (start.after (before ++ [a])).gather State.lands since = [id]
  /-- Any other report changes nothing and asks for nothing. -/
  stale : ∀ id outcome now, ¬Awaited start acts id →
    update (start.after acts) (.renderCompleted id outcome now) = (start.after acts, [])
  /-- So does the news that a render is on its way, unless it is the one in
  flight and that is new. -/
  dispatched : ∀ id,
    ¬((start.after acts).render.inFlight = some id
        ∧ (start.after acts).render.phase = .submitting) →
      update (start.after acts) (.renderDispatched id) = (start.after acts, [])
  /-- So does a request while a render is in flight. -/
  refused : ∀ id, (start.after acts).render.inFlight = some id →
    update (start.after acts) .renderRequested = (start.after acts, [])

theorem update_completed_changes {s : State} {id : RenderId} (outcome : Outcome) (now : UInt64) :
    (update s (.renderCompleted id outcome now)).1 ≠ s ↔ s.render.inFlight = some id := by
  constructor
  · intro hnew
    by_contra hid
    rw [update_renderCompleted_stale hid] at hnew
    exact hnew rfl
  · intro hid hsame
    rw [update_renderCompleted_awaited hid, applyOutcome_eq] at hsame
    -- the flight is over afterwards
    have hnone : s.render.inFlight = none := by
      rw [← hsame]
      rfl
    rw [hnone] at hid
    cases hid

theorem update_dispatched_other {s : State} {id : RenderId}
    (h : ¬(s.render.inFlight = some id ∧ s.render.phase = .submitting)) :
    update s (.renderDispatched id) = (s, []) := by
  show (s.markCompiling id, ([] : List Effect)) = (s, [])
  unfold State.markCompiling
  rw [if_neg h]

theorem update_requested_inFlight {s : State} (hs : s.Coherent) {id : RenderId}
    (h : s.render.inFlight = some id) : update s .renderRequested = (s, []) :=
  update_renderRequested_busy (hs.render.busy h)

/-- The only render that lands before the next one is sent is the last one. -/
theorem landed_between {s : State} (h : s.Coherent) {a b : Act} {id : RenderId}
    {request : CompileRequest} {since : List Act} (ha : (id, request) ∈ s.sends a)
    (hquiet : (s.act a).gather State.sends since = [])
    (hb : ((s.act a).after since).sends b ≠ []) :
    (s.act a).gather State.lands since = [id] := by
  obtain ⟨hreq, hnone, rfl, template, hsel, rfl⟩ := mem_sends h ha
  have hin : (s.act a).render.inFlight = some s.nextRender := by
    cases act_flight h a with
    | sent _ _ _ _ _ hin _ => exact hin
    | landed _ _ hsends _ _ _ =>
      rw [hsends] at ha
      cases ha
    | kept _ hsends _ _ _ =>
      rw [hsends] at ha
      cases ha
  -- before the next render is sent nothing is in flight
  have hdone : ((s.act a).after since).render.inFlight = none := by
    obtain ⟨sent, hmem⟩ := List.exists_mem_of_ne_nil _ hb
    exact (mem_sends (foldl_act_coherent (act_coherent h a) since) hmem).2.1
  have hall := sent_eq_landed (act_coherent h a) since
  rw [hin, hquiet, hdone] at hall
  simpa using hall.symm

/-- **A session has one render in flight at a time**, whatever has happened to
it, as long as its renders can be numbered with 64 bits each. -/
theorem single_flight (template : String) (acts : List Act)
    (hlen : (messages acts).length < 2 ^ 64 - 1) :
    SingleFlight (.preferring template) acts := by
  have hstart : (State.preferring template).Coherent := preferring_coherent template
  have hs : ((State.preferring template).after acts).Coherent := after_coherent template acts
  have hcurrent := inFlight_iff_awaited hstart rfl acts
  have hfew := sent_length_le hstart acts
  exact {
    numbers := (sent_numbered hstart rfl acts (by omega)).2
    requests := by
      intro a id request hsent
      obtain ⟨ha, _, _, chosen, hsel, hrequest⟩ := mem_sends hs hsent
      exact ⟨ha, chosen, hsel, hrequest⟩
    current := hcurrent
    counts := by
      intro id outcome now
      rw [update_completed_changes, hcurrent]
    between := by
      rintro before a since b rfl id request hsent hquiet hb
      rw [after_snoc] at hquiet ⊢
      rw [after_append, after_cons] at hb
      exact landed_between (after_coherent template before) hsent hquiet hb
    stale := by
      intro id outcome now hid
      apply update_renderCompleted_stale
      rw [ne_eq, hcurrent]
      exact hid
    dispatched := fun id hid => update_dispatched_other hid
    refused := fun id hid => update_requested_inFlight hs hid }

/-- Two renders, the first of which is reported twice. -/
def twoRenders : List Act :=
  [.message (.sessionStarted "a"), .message (.templatesLoaded ["t"]), .message .renderRequested,
    .message (.renderCompleted 1 (.transportFailed "broken") 5), .look,
    .message (.renderCompleted 1 (.transportFailed "broken") 6), .message .renderRequested]

/-- The second render is number two, and it is the one that is awaited. -/
theorem second_flight :
    (messages twoRenders).length < 2 ^ 64 - 1
      ∧ ((State.preferring "t").gather State.sends twoRenders).map (fun sent => sent.1.toNat)
        = [1, 2]
      ∧ ((State.preferring "t").after twoRenders).render.inFlight = some 2
      ∧ Awaited (.preferring "t") twoRenders 2 := by
  have hflight := single_flight "t" twoRenders (by decide)
  have hin : ((State.preferring "t").after twoRenders).render.inFlight = some 2 := by decide
  exact ⟨by decide, hflight.numbers.trans (by decide), hin, (hflight.current 2).1 hin⟩

end RenderDesk.Session
