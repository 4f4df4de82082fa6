/-
  RenderDesk.Proofs.Replaying
  ───────────────────────────
  What is played from a tape is what the network brings.

  A call cannot stop in its middle until the network has answered.  So it is
  played on a tape of the answers so far, the network is asked for the one that
  the tape notes as wanted, and the call is played again from the start.  This
  comes to the same: with all of its answers the play has the call's result and
  leaves the rest of the tape, and with the first few of them it wants exactly
  the request that comes next.

  Main statements:
    * `Plays.ends` — a play that wants nothing more has the result;
    * `exchange_replayed` — one exchange is replayed;
    * `Replayed.thenDo` — and so is what follows, whatever it depends on;
    * `remote_replayed` — so every call of a service is.
-/
import RenderDesk.Http.Tape
import RenderDesk.Service.Remote

namespace RenderDesk.Http

variable {σ α β : Type} {link : Link σ}

/-! ## §1. Plays. -/

/-- What one step brings, and then the next. -/
def thenDo (first : σ → α × σ) (next : α → σ → β × σ) (s : σ) : β × σ :=
  next (first s).1 (first s).2

/-- A request and what the network answered. -/
abbrev Asked := Request × Timed Answer

/-- What a network is asked and answers, from one state to another. -/
inductive Exchanges (link : Link σ) : σ → List Asked → σ → Prop where
  | done {s : σ} : Exchanges link s [] s
  | next {request : Request} {answer : Timed Answer} {more : List Asked} {s s' last : σ} :
    link.exchange request s = (answer, s') → Exchanges link s' more last →
    Exchanges link s ((request, answer) :: more) last

theorem Exchanges.append {made more : List Asked} {s s' last : σ} (h : Exchanges link s made s')
    (hmore : Exchanges link s' more last) : Exchanges link s (made ++ more) last := by
  induction h with
  | done => exact hmore
  | next hanswer _ ih => exact .next hanswer (ih hmore)

/-- A play brings a result with the answers that were given. -/
structure Plays (made : List Asked) (a : α) (played : Tape → α × Tape) : Prop where
  /-- With all of them it has the result, and leaves what follows on the tape. -/
  complete : ∀ rest wanted, played ⟨made.map Prod.snd ++ rest, wanted⟩ = (a, ⟨rest, wanted⟩)
  /-- With the first few it wants the next one. -/
  wants : ∀ front asked back, made = front ++ asked :: back →
    (played { recorded := front.map Prod.snd }).2.wanted = some asked.1

/-- **A play that wants nothing more has the result.**  So it may be played again
and again, with one more answer each time, until then. -/
theorem Plays.ends {made : List Asked} {a : α} {played : Tape → α × Tape} {n : Nat}
    (h : Plays made a played)
    (hnone : (played { recorded := (made.take n).map Prod.snd }).2.wanted = none) :
    (played { recorded := (made.take n).map Prod.snd }).1 = a := by
  by_cases hn : n < made.length
  · -- an answer is missing, and its request would be wanted
    have hcut : made = made.take n ++ made[n] :: made.drop (n + 1) := by
      rw [List.getElem_cons_drop, List.take_append_drop]
    rw [h.wants _ _ _ hcut] at hnone
    cases hnone
  · have hall := h.complete [] none
    rw [List.append_nil] at hall
    rw [List.take_of_length_le (Nat.le_of_not_lt hn), hall]

/-- Over a network, what a play on a tape stands for. -/
structure Replayed (link : Link σ) (live : σ → α × σ) (played : Tape → α × Tape) : Prop where
  plays : ∀ s, ∃ made, Exchanges link s made (live s).2 ∧ Plays made (live s).1 played
  /-- A request that is wanted already is still the first one. -/
  keeps : ∀ t request, t.wanted = some request → (played t).2.wanted = some request

/-- What asks for nothing. -/
theorem pure_replayed (a : α) : Replayed link (fun s => (a, s)) (fun t => (a, t)) where
  plays := fun s => ⟨[], .done, fun _ _ => rfl, fun front _ _ h => by simp at h⟩
  keeps := fun _ _ h => h

/-- **One exchange is replayed.** -/
theorem exchange_replayed (request : Request) :
    Replayed link (link.exchange request) (tape.exchange request) where
  plays := by
    intro s
    refine ⟨[(request, (link.exchange request s).1)], .next rfl .done,
      fun rest wanted => tape_recorded request _ rest wanted, ?_⟩
    intro front asked back h
    -- nothing is in front of the only request
    cases front with
    | nil =>
      rw [← (List.cons.inj h).1]
      rfl
    | cons first front => simp at h
  keeps := by
    rintro ⟨recorded, wanted⟩ first hfirst
    cases recorded with
    | nil =>
      rw [tape_wanted, show wanted = some first from hfirst]
      rfl
    | cons answer recorded =>
      rw [tape_recorded]
      exact hfirst

/-- **What follows is replayed too**, whatever it depends on. -/
theorem Replayed.thenDo {live : σ → α × σ} {played : Tape → α × Tape}
    {next : α → σ → β × σ} {playedNext : α → Tape → β × Tape} (h : Replayed link live played)
    (hnext : ∀ a, Replayed link (next a) (playedNext a)) :
    Replayed link (thenDo live next) (thenDo played playedNext) where
  plays := by
    intro s
    obtain ⟨made, hmade, hplays⟩ := h.plays s
    obtain ⟨more, hmore, hplaysNext⟩ := (hnext (live s).1).plays (live s).2
    refine ⟨made ++ more, hmade.append hmore, ?_, ?_⟩
    · -- the answers of the next step are what the first one leaves on the tape
      intro rest wanted
      unfold Http.thenDo
      rw [List.map_append, List.append_assoc, hplays.complete]
      exact hplaysNext.complete rest wanted
    · intro front asked back hcut
      unfold Http.thenDo
      rcases List.append_eq_append_iff.1 hcut with ⟨late, rfl, hlate⟩ | ⟨early, rfl, hearly⟩
      · -- the cut is behind the first step
        rw [List.map_append, hplays.complete]
        exact hplaysNext.wants late asked back hlate
      · cases early with
        | nil =>
          -- the cut is between the two
          have hfirst := hplays.complete [] none
          simp only [List.append_nil] at hfirst hearly ⊢
          rw [hfirst]
          exact hplaysNext.wants [] asked back hearly.symm
        | cons first early =>
          -- the cut is within the first step, and the next one wants nothing before
          obtain ⟨rfl, _⟩ := List.cons.inj hearly
          exact (hnext _).keeps _ _ (hplays.wants front asked early rfl)
  keeps := fun t request hwanted => (hnext _).keeps _ _ (h.keeps t request hwanted)

/-- A result that is looked at differently. -/
theorem Replayed.map {live : σ → α × σ} {played : Tape → α × Tape} (h : Replayed link live played)
    (f : α → β) : Replayed link (fun s => (f (live s).1, (live s).2))
      (fun t => (f (played t).1, (played t).2)) :=
  h.thenDo fun a => pure_replayed (f a)

/-! ## §2. Redirects. -/

/-- What is taken for an answer, when something may be taken instead of a
redirect. -/
def takenFor (request : Request) (instead : Request → Option Answer) : Timed Answer → Timed Answer
  | .after elapsed (.ok response) =>
    .after elapsed (((redirected? request response).bind instead).getD (.ok response))
  | other => other

theorem exchangeWeb_eq (link : Link σ) {request : Request} (hweb : isWeb request.url = true)
    (instead : Request → Option Answer) (s : σ) :
    follow.exchangeWeb link request s instead
      = (takenFor request instead (link.exchange request s).1, (link.exchange request s).2) := by
  unfold follow.exchangeWeb
  rw [if_pos hweb]
  rcases link.exchange request s with ⟨⟨elapsed, _ | response⟩ | _, s'⟩ <;> rfl

theorem exchangeWeb_replayed (request : Request) (instead : Request → Option Answer) :
    Replayed link (follow.exchangeWeb link request · instead)
      (follow.exchangeWeb tape request · instead) := by
  by_cases hweb : isWeb request.url = true
  · simp only [exchangeWeb_eq _ hweb]
    exact (exchange_replayed request).map _
  · simp only [follow.exchangeWeb, if_neg hweb]
    exact pure_replayed _

/-- What is done behind an exchange: a redirect is followed. -/
def onwards (link : Link σ) (request : Request) (left : Nat) : Timed Answer → σ → Timed Answer × σ
  | .after elapsed (.ok response), s =>
    match redirected? request response with
    | none => (.after elapsed (.ok response), s)
    | some next => ((follow link next s left).1.later elapsed, (follow link next s left).2)
  | other, s => (other, s)

theorem follow_succ (link : Link σ) (request : Request) (left : Nat) (s : σ) :
    follow link request s (left + 1)
      = thenDo (follow.exchangeWeb link request · fun _ => none) (onwards link request left) s := by
  unfold follow
  show _ = onwards link request left (follow.exchangeWeb link request s fun _ => none).1
    (follow.exchangeWeb link request s fun _ => none).2
  generalize follow.exchangeWeb link request s (fun _ => none) = first
  rcases first with ⟨⟨elapsed, _ | response⟩ | _, s'⟩ <;> rfl

theorem follow_replayed (request : Request) (left : Nat) :
    Replayed link (follow link request · left) (follow tape request · left) := by
  -- on the redirects that are left
  induction left generalizing request with
  | zero => exact exchangeWeb_replayed request _
  | succ left ih =>
    simp only [follow_succ]
    refine (exchangeWeb_replayed request _).thenDo fun answer => ?_
    -- what is done next depends on the answer, and only a redirect asks for more
    rcases answer with ⟨elapsed, _ | response⟩ | _
    · exact pure_replayed _
    · unfold onwards
      simp only
      cases redirected? request response with
      | none => exact pure_replayed _
      | some next => exact (ih next).map _
    · exact pure_replayed _

theorem send_replayed (limit : Duration) (request : Request) :
    Replayed link (send link limit request) (send tape limit request) :=
  (follow_replayed _ redirectLimit).map _

end RenderDesk.Http

/-! ## §3. The calls of a service. -/

namespace RenderDesk.Service

open RenderDesk.Http

variable {σ α β : Type} {link : Link σ}

theorem exchange_replayed (limit : Duration) (request : Request)
    (readBody : Response → Result α) :
    Replayed link (exchange (send link limit) request readBody)
      (exchange (send tape limit) request readBody) :=
  (send_replayed limit request).map _

theorem withUrl_replayed {url : Result Url} {call : Url → Call σ α} {played : Url → Call Tape α}
    (h : ∀ url, Replayed link (call url) (played url)) :
    Replayed link (withUrl url call) (withUrl url played) := by
  cases url with
  | ok url => exact h url
  | error f => exact pure_replayed _

/-- What is done behind a call. -/
def further (next : α → Call σ β) : Timed (Result α) → Call σ β
  | .after elapsed (.ok a), s => ((next a s).1.later elapsed, (next a s).2)
  | .after elapsed (.error f), s => (.after elapsed (.error f), s)
  | .never, s => (.never, s)

theorem andThen_eq (call : Call σ α) (next : α → Call σ β) (s : σ) :
    call.andThen next s = thenDo call (further next) s := by
  unfold Call.andThen thenDo
  rcases call s with ⟨⟨elapsed, _ | a⟩ | _, s'⟩ <;> rfl

theorem andThen_replayed {call : Call σ α} {played : Call Tape α} {next : α → Call σ β}
    {playedNext : α → Call Tape β} (h : Replayed link call played)
    (hnext : ∀ a, Replayed link (next a) (playedNext a)) :
    Replayed link (call.andThen next) (played.andThen playedNext) := by
  rw [funext (andThen_eq call next), funext (andThen_eq played playedNext)]
  refine h.thenDo fun answer => ?_
  rcases answer with ⟨elapsed, f | a⟩ | _
  · exact pure_replayed _
  · exact (hnext a).map _
  · exact pure_replayed _

/-- The calls of a service over a network and on a tape. -/
structure ReplayedCalls (link : Link σ) (live : CompileService σ) (played : CompileService Tape) :
    Prop where
  submit : ∀ request, Replayed link (live.submit request) (played.submit request)
  fetchSource : ∀ jobId, Replayed link (live.fetchSource jobId) (played.fetchSource jobId)
  listTemplates : Replayed link live.listTemplates played.listTemplates
  fetchArtifact : ∀ reference,
    Replayed link (live.fetchArtifact reference) (played.fetchArtifact reference)
  submitWithin : ∀ deadline request,
    Replayed link (live.submitWithin deadline request) (played.submitWithin deadline request)
  extractSource : ∀ request,
    Replayed link (live.extractSource request) (played.extractSource request)

/-- **Every call of a service is replayed**, also those with a deadline and those
that consist of two. -/
theorem remote_replayed (link : Link σ) (settings : Settings) (base : Url) :
    ReplayedCalls link (remote link settings base) (remote tape settings base) := by
  have hsubmit : ∀ request, Replayed link ((remote link settings base).submit request)
      ((remote tape settings base).submit request) :=
    fun _ => withUrl_replayed fun _ => exchange_replayed _ _ _
  have hsource : ∀ jobId, Replayed link ((remote link settings base).fetchSource jobId)
      ((remote tape settings base).fetchSource jobId) :=
    fun _ => withUrl_replayed fun _ => exchange_replayed _ _ _
  exact
    { submit := hsubmit
      fetchSource := hsource
      listTemplates := withUrl_replayed fun _ => exchange_replayed _ _ _
      fetchArtifact := fun _ => withUrl_replayed fun _ => exchange_replayed _ _ _
      submitWithin := by
        intro deadline request
        cases deadline with
        | none => exact hsubmit request
        | some deadline => exact (hsubmit request).map _
      extractSource := by
        intro request
        refine andThen_replayed (hsubmit request) fun reply => ?_
        cases jobOf reply with
        | ok jobId => exact hsource jobId
        | error f => exact pure_replayed _ }

end RenderDesk.Service
