/-
  RenderDesk.Proofs.Answers
  ─────────────────────────
  Where a reply of the compile service comes from.

  Between a submission and a reply there are redirects, a limit on the wait,
  a status, the bytes of a body and their reading, and every one of them can
  turn an answer into a failure.  So a reply tells that none of them did.

  Main statements:
    * `send_leads` — a response is the last one of a chain of redirects;
    * `exchange_ok` — only a response of success is read;
    * `submit_accepted` — a reply was read from such a response.
-/
import RenderDesk.Service.Remote

/-! ## §1. Chains of redirects. -/

namespace RenderDesk.Http

variable {σ : Type} {link : Link σ}

/-- A request leads to a response that sends it no further, after a number of
redirects. -/
inductive Leads (link : Link σ) : Nat → Request → σ → Response → σ → Prop where
  | final {request : Request} {s s' : σ} {elapsed : Duration} {response : Response} :
    isWeb request.url = true →
    link.exchange request s = (.after elapsed (.ok response), s') →
    redirected? request response = none →
    Leads link 0 request s response s'
  | onward {n : Nat} {request next : Request} {s s' final : σ} {elapsed : Duration}
      {response last : Response} :
    isWeb request.url = true →
    link.exchange request s = (.after elapsed (.ok response), s') →
    redirected? request response = some next →
    Leads link n next s' last final →
    Leads link (n + 1) request s last final

/-- A response of one exchange is what the link has brought, when nothing but a
failure may be taken instead of it. -/
theorem exchangeWeb_ok {request : Request} {s s' : σ} {elapsed : Duration} {response : Response}
    {instead : Request → Option Answer} (hinstead : ∀ next r, instead next ≠ some (.ok r))
    (h : follow.exchangeWeb link request s instead = (.after elapsed (.ok response), s')) :
    isWeb request.url = true ∧ link.exchange request s = (.after elapsed (.ok response), s')
      ∧ (redirected? request response).bind instead = none := by
  unfold follow.exchangeWeb at h
  split at h
  · next hweb =>
    split at h
    · next arrived answered left hanswered =>
      cases htaken : (redirected? request answered).bind instead with
      | none =>
        rw [htaken] at h
        cases h
        exact ⟨hweb, hanswered, htaken⟩
      | some answer =>
        -- a failure was taken, so there is no response
        rw [htaken] at h
        cases h
        obtain ⟨next, _, hnext⟩ := Option.bind_eq_some_iff.1 htaken
        exact absurd hnext (hinstead next response)
    · next hother => exact absurd h (hother _ _ _)
  · cases h

/-- A response to a request that was followed is the last one of a chain. -/
theorem follow_leads {request : Request} {s s' : σ} {left : Nat} {elapsed : Duration}
    {response : Response} (h : follow link request s left = (.after elapsed (.ok response), s')) :
    ∃ n ≤ left, Leads link n request s response s' := by
  -- on the redirects that are left: each one starts a shorter chain elsewhere
  induction left generalizing request s elapsed with
  | zero =>
    -- there is no redirect left, so none was asked for
    obtain ⟨hweb, hexchange, hnone⟩ := exchangeWeb_ok (by simp) h
    have hfinal : redirected? request response = none := by
      cases hnext : redirected? request response with
      | none => rfl
      | some next =>
        rw [hnext] at hnone
        cases hnone
    exact ⟨0, Nat.le_refl 0, .final hweb hexchange hfinal⟩
  | succ left ih =>
    unfold follow at h
    split at h
    · next arrived answered between hanswered =>
      obtain ⟨hweb, hexchange, _⟩ := exchangeWeb_ok (by simp) hanswered
      split at h
      · next hfinal =>
        cases h
        exact ⟨0, Nat.zero_le _, .final hweb hexchange hfinal⟩
      · next next hnext =>
        -- the delay of the first exchange is added to what the rest takes
        cases hrest : follow link next between left with
        | mk answer final =>
          rw [hrest] at h
          cases answer with
          | never => cases h
          | after later value =>
            cases h
            obtain ⟨n, hn, hleads⟩ := ih hrest
            exact ⟨n + 1, Nat.succ_le_succ hn, .onward hweb hexchange hnext hleads⟩
    · next hother => exact absurd h (hother _ _ _)

/-- **A response is the last one of a chain of redirects** that is not longer
than the limit. -/
theorem send_leads {limit : Duration} {request : Request} {s s' : σ} {elapsed : Duration}
    {response : Response} (h : send link limit request s = (.after elapsed (.ok response), s')) :
    ∃ n ≤ redirectLimit,
      Leads link n { request with url := withoutCredentials request.url } s response s' := by
  unfold send at h
  injection h with hanswer hs
  have hfollow := Timed.of_within hanswer (by simp)
  exact follow_leads (Prod.ext hfollow hs)

end RenderDesk.Http

namespace RenderDesk.Service

open RenderDesk.Http

variable {σ : Type} {link : Link σ} {settings : Settings}

/-! ## §2. Calls that succeed. -/

section Exchanges

variable {α : Type} {sender : Sender σ} {request : Request} {readBody : Response → Result α}
  {s s' : σ} {elapsed : Duration}

/-- Only a response of success is read. -/
theorem exchange_ok {a : α} (h : exchange sender request readBody s = (.after elapsed (.ok a), s')) :
    ∃ response, sender request s = (.after elapsed (.ok response), s')
      ∧ response.isSuccess = true ∧ readBody response = .ok a := by
  -- a failure to send and a status that is no success give failures
  unfold exchange at h
  cases hsend : sender request s with
  | mk answer left =>
    rw [hsend] at h
    cases answer with
    | never => cases h
    | after arrived brought =>
      injection h with hresult hs
      injection hresult with helapsed hbrought
      rw [← helapsed, ← hs]
      cases brought with
      | error e => cases hbrought
      | ok response =>
        by_cases hsuccess : response.isSuccess = true
        · simp only [hsuccess, if_true] at hbrought
          exact ⟨response, rfl, hsuccess, hbrought⟩
        · simp [hsuccess] at hbrought

/-- What is read of a response of success is what a call brings. -/
theorem exchange_success {response : Response}
    (hsend : sender request s = (.after elapsed (.ok response), s'))
    (hsuccess : response.isSuccess = true) :
    exchange sender request readBody s = (.after elapsed (readBody response), s') := by
  unfold exchange
  rw [hsend]
  simp only [Timed.map, hsuccess, if_true]

end Exchanges

/-- The reading of a reply succeeds on the text of one only. -/
theorem expected_readReply_iff {url : Url} {response : Response} {reply : CompileReply} :
    (do expected (readReply (← readText url response))) = Except.ok reply
      ↔ ∃ text, response.body.text = .ok text ∧ readReply text = some reply := by
  unfold readText
  cases htext : response.body.text with
  | error ending =>
    constructor
    · rintro ⟨⟩
    · rintro ⟨text, ⟨⟩, _⟩
  | ok text =>
    show expected (readReply text) = .ok reply ↔ _
    cases hreply : readReply text <;> simp [expected, hreply]

/-! ## §3. Submissions. -/

/-- A submission was accepted with a reply: the final response is a success, and
the reply is what its body says. -/
structure Accepted (link : Link σ) (settings : Settings) (base : Url) (request : CompileRequest)
    (net net' : σ) (reply : CompileReply) (url : Url) (response : Response) : Prop where
  address : resolve base settings.renderPath = .ok url
  answered : ∃ n ≤ redirectLimit, Leads link n
    { method := .post, url := withoutCredentials url, body := some request.wireText }
    net response net'
  status : 200 ≤ response.status ∧ response.status < 300
  body : ∃ text, response.body.text = .ok text ∧ readReply text = some reply

variable {base : Url} {request : CompileRequest} {net net' : σ} {elapsed : Duration}
  {reply : CompileReply}

/-- **A reply comes from a final response of success** whose body is a reply. -/
theorem submit_accepted
    (h : (remote link settings base).submit request net = (.after elapsed (.ok reply), net')) :
    ∃ url response, Accepted link settings base request net net' reply url response := by
  change withUrl (resolve base settings.renderPath) _ net = _ at h
  cases haddress : resolve base settings.renderPath with
  | error f =>
    rw [haddress] at h
    cases h
  | ok url =>
    rw [haddress, withUrl_ok] at h
    obtain ⟨response, hsend, hsuccess, hread⟩ := exchange_ok h
    exact ⟨url, response, haddress, send_leads hsend, Response.isSuccess_iff.1 hsuccess,
      expected_readReply_iff.1 hread⟩

/-- A final response of success whose body is a reply makes a submission succeed. -/
theorem submit_of_answer {url : Url} {response : Response} {text : String}
    (haddress : resolve base settings.renderPath = .ok url)
    (hsend : send link settings.requestTimeout
      { method := .post, url, body := some request.wireText } net
        = (.after elapsed (.ok response), net'))
    (hsuccess : response.isSuccess = true) (htext : response.body.text = .ok text)
    (hreply : readReply text = some reply) :
    (remote link settings base).submit request net = (.after elapsed (.ok reply), net') := by
  show withUrl (resolve base settings.renderPath) _ net = _
  rw [haddress, withUrl_ok, exchange_success hsend hsuccess, expected_readReply_iff.2 ⟨text, htext, hreply⟩]

/-- A deadline makes failures only. -/
theorem submitWithin_ok {service : CompileService σ} {deadline : Option Duration}
    (h : service.submitWithin deadline request net = (.after elapsed (.ok reply), net')) :
    service.submit request net = (.after elapsed (.ok reply), net') := by
  unfold CompileService.submitWithin at h
  cases deadline with
  | none => exact h
  | some deadline =>
    injection h with hanswer hnet
    exact Prod.ext (Timed.of_within hanswer (by simp)) hnet

end RenderDesk.Service
