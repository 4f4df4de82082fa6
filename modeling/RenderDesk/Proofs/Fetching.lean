/-
  RenderDesk.Proofs.Fetching
  ──────────────────────────
  The source of a document is asked for once, and only for a job that can stand
  in a path.

  A job's number comes from the network and becomes part of a reference.  To
  tell what is sent, the service runs over a sender that notes every request.
  It notes those of one submission and then at most one more, for the source of
  a job that is made of letters, digits, hyphens and underscores; such a job
  cannot change the shape of the path that it stands in.

  Main statements:
    * `extractSource_sends` — what is sent for the source of a document;
    * `resolve_usual` — where the usual path of a source leads;
    * `extraction_careful` — all that can become of an extraction.
-/
import RenderDesk.Http.Wire
import RenderDesk.Proofs.Decoding
import RenderDesk.Proofs.Resolving

namespace RenderDesk.Service

open RenderDesk.Http
open RenderDesk.Url (Route IsPlain isTwoDots isDot)

variable {σ α β : Type}

/-! ## §1. Jobs that can stand in a path. -/

/-- A letter, a digit, a hyphen or an underscore. -/
def IsJobChar (c : Char) : Prop :=
  ('a' ≤ c ∧ c ≤ 'z') ∨ ('A' ≤ c ∧ c ≤ 'Z') ∨ ('0' ≤ c ∧ c ≤ '9') ∨ c = '-' ∨ c = '_'

instance (c : Char) : Decidable (IsJobChar c) := inferInstanceAs (Decidable (_ ∨ _))

/-- A job whose number is written in such characters. -/
def UsableJob (jobId : String) : Prop := jobId ≠ "" ∧ ∀ c ∈ jobId.toList, IsJobChar c

theorem isJobChar_iff (c : Char) : (c.isAlphanum || c = '-' || c = '_') = true ↔ IsJobChar c := by
  have hclasses : c.isAlphanum = ((decide ('A' ≤ c ∧ c ≤ 'Z') || ('a' ≤ c && c ≤ 'z'))
      || ('0' ≤ c && c ≤ '9')) := rfl
  simp only [hclasses, IsJobChar, Bool.or_eq_true, Bool.and_eq_true, decide_eq_true_eq]
  grind

theorem isUsableJob_iff (jobId : String) : isUsableJob jobId = true ↔ UsableJob jobId := by
  simp only [isUsableJob, UsableJob, Bool.and_eq_true, List.all_eq_true, isJobChar_iff]
  simp

theorem IsJobChar.ascii {c : Char} (h : IsJobChar c) : c.toNat < 128 := by
  have hbelow : ∀ {d : Char}, c ≤ d → c.toNat ≤ d.toNat := fun hcd => hcd
  rcases h with ⟨_, h⟩ | ⟨_, h⟩ | ⟨_, h⟩ | rfl | rfl
  · exact Nat.lt_of_le_of_lt (hbelow h) (by decide)
  · exact Nat.lt_of_le_of_lt (hbelow h) (by decide)
  · exact Nat.lt_of_le_of_lt (hbelow h) (by decide)
  · decide
  · decide

/-- A character of a job is plain, and neither a dot nor a percent sign. -/
theorem IsJobChar.plain {c : Char} (h : IsJobChar c) : IsPlain c ∧ c ≠ '.' ∧ c ≠ '%' := by
  have htable : ∀ n < 128, IsJobChar (Char.ofNat n) →
      IsPlain (Char.ofNat n) ∧ Char.ofNat n ≠ '.' ∧ Char.ofNat n ≠ '%' := by
    decide +kernel
  have hc := htable c.toNat h.ascii
  rw [Char.ofNat_toNat] at hc
  exact hc h

/-! ## §2. What is sent. -/

/-- A way to send that also notes every request. -/
def noting (sender : Sender σ) : Sender (σ × List Request) := fun request (s, noted) =>
  let (answer, s) := sender request s
  (answer, s, noted ++ [request])

/-- A call over a noting sender notes requests, and is the call without the notes
otherwise. -/
def Sends (noting : Call (σ × List Request) α) (call : Call σ α) (s : σ)
    (requests : List Request) : Prop :=
  ∀ noted, noting (s, noted) = ((call s).1, (call s).2, noted ++ requests)

theorem fail_sends (f : Failure) (s : σ) :
    Sends (α := α) (Call.fail f) (Call.fail f) s [] := by
  intro noted
  rw [List.append_nil]
  rfl

theorem exchange_sends (sender : Sender σ) (request : Request) (readBody : Response → Result α)
    (s : σ) : Sends (exchange (noting sender) request readBody) (exchange sender request readBody)
      s [request] := fun _ => rfl

/-- A request for a URL is sent, unless there is none. -/
def requestTo (url : Result Url) (request : Url → Request) : List Request :=
  match url with
  | .ok url => [request url]
  | .error _ => []

theorem withUrl_sends (sender : Sender σ) (url : Result Url) (request : Url → Request)
    (readBody : Url → Response → Result α) (s : σ) :
    Sends (withUrl url fun url => exchange (noting sender) (request url) (readBody url))
      (withUrl url fun url => exchange sender (request url) (readBody url)) s
      (requestTo url request) := by
  cases url with
  | ok url => exact exchange_sends sender (request url) (readBody url) s
  | error f => exact fail_sends f s

section Chains

variable {noted : Call (σ × List Request) α} {call : Call σ α}
  {notedNext : α → Call (σ × List Request) β} {next : α → Call σ β} {s s' : σ}
  {elapsed : Duration} {requests more : List Request}

/-- What follows a call is sent behind it. -/
theorem andThen_sends {a : α} (hcall : Sends noted call s requests)
    (hresult : call s = (.after elapsed (.ok a), s'))
    (hnext : Sends (notedNext a) (next a) s' more) :
    Sends (noted.andThen notedNext) (call.andThen next) s (requests ++ more) := by
  intro before
  simp only [Call.andThen, hcall before, hresult, hnext (before ++ requests), List.append_assoc]

/-- Nothing is sent behind a call that failed. -/
theorem andThen_failed_sends {f : Failure} (hcall : Sends noted call s requests)
    (hresult : call s = (.after elapsed (.error f), s')) :
    Sends (noted.andThen notedNext) (call.andThen next) s requests := by
  intro before
  simp only [Call.andThen, hcall before, hresult]

end Chains

/-! ## §3. The calls of a service. -/

variable {link : Link σ} {settings : Settings} {base : Url} {request : CompileRequest}
  {net between : σ} {elapsed : Duration} {reply : CompileReply}

/-- The service with a note of every request. -/
def notingRemote (link : Link σ) (settings : Settings) (base : Url) :
    CompileService (σ × List Request) :=
  remoteBy (noting (send link settings.requestTimeout)) settings base

theorem submit_eq (sender : Sender σ) (settings : Settings) (base : Url)
    (request : CompileRequest) : (remoteBy sender settings base).submit request
      = withUrl (resolve base settings.renderPath) fun url =>
        exchange sender { method := .post, url, body := some request.wireText } fun r =>
          (do expected (readReply (← readText url r))) := rfl

/-- The requests of a submission: one, unless its path leads nowhere. -/
def submission (settings : Settings) (base : Url) (request : CompileRequest) : List Request :=
  requestTo (resolve base settings.renderPath)
    fun url => { method := .post, url, body := some request.wireText }

/-- Where the source of a job is. -/
def sourceUrl (settings : Settings) (base : Url) (jobId : String) : Result Url := do
  resolve base (← sourcePathFor settings jobId)

theorem fetchSource_eq (sender : Sender σ) (settings : Settings) (base : Url) (jobId : String) :
    (remoteBy sender settings base).fetchSource jobId
      = withUrl (sourceUrl settings base jobId) fun url =>
        exchange sender { method := .get, url } (readText url) := rfl

theorem submit_sends (link : Link σ) (settings : Settings) (base : Url)
    (request : CompileRequest) (s : σ) :
    Sends ((notingRemote link settings base).submit request)
      ((remote link settings base).submit request) s (submission settings base request) :=
  withUrl_sends _ _ _ _ s

theorem fetchSource_sends (link : Link σ) (settings : Settings) (base : Url) (jobId : String)
    (s : σ) :
    Sends ((notingRemote link settings base).fetchSource jobId)
      ((remote link settings base).fetchSource jobId) s
      (requestTo (sourceUrl settings base jobId) fun url => { method := .get, url }) :=
  withUrl_sends _ _ _ _ s

/-- What is sent for the source of a document behind a submission. -/
def furtherRequests (settings : Settings) (base : Url) (submitted : Result CompileReply) :
    List Request :=
  requestTo (submitted.bind jobOf >>= sourceUrl settings base) fun url => { method := .get, url }

/-- **For the source of a document one submission is sent**, and behind it what its
result allows. -/
theorem extractSource_sends {submitted : Result CompileReply}
    (hsubmit : (remote link settings base).submit request net = (.after elapsed submitted, between)) :
    Sends ((notingRemote link settings base).extractSource request)
      ((remote link settings base).extractSource request) net
      (submission settings base request ++ furtherRequests settings base submitted) := by
  unfold CompileService.extractSource
  have hsends := submit_sends link settings base request net
  cases submitted with
  | error f =>
    show Sends _ _ net (submission settings base request ++ [])
    rw [List.append_nil]
    exact andThen_failed_sends hsends hsubmit
  | ok reply =>
    refine andThen_sends hsends hsubmit ?_
    show Sends (match jobOf reply with | _ => _) (match jobOf reply with | _ => _) _
      (requestTo (jobOf reply >>= sourceUrl settings base) _)
    cases jobOf reply with
    | ok jobId => exact fetchSource_sends link settings base jobId between
    | error f => exact fail_sends f between

/-! ## §4. The usual path of a source. -/

/-- The parts of the usual path. -/
def usualParts (jobId : String) : List (List Char) :=
  ["build".toList, jobId.toList, "document.tex".toList]

theorem replaced_usual (jobId : String) :
    Text.replaced jobPlace jobId ({} : Settings).sourcePath
      = String.ofList (Route.segments (usualParts jobId)).text := by
  have hpieces : ∀ piece ∈ ["/build/", "/document.tex"],
      ¬jobPlace.toList <:+: piece.toList := by
    decide +kernel
  have hpath : ({} : Settings).sourcePath = jobPlace.intercalate ["/build/", "/document.tex"] := by
    decide
  rw [hpath, Text.replaced_intercalate rfl (by decide) jobId hpieces]
  apply String.toList_inj.1
  rw [String.toList_intercalate, String.toList_ofList]
  show jobId.toList.intercalate ["/build/".toList, "/document.tex".toList] = _
  rw [List.intercalate_cons_cons, List.intercalate_singleton]
  simp [Route.text, usualParts]

/-- The parts of the usual path are plain. -/
theorem usualParts_plain {jobId : String} (h : UsableJob jobId) :
    ∀ part ∈ usualParts jobId, (∀ c ∈ part, IsPlain c)
      ∧ isTwoDots part = false ∧ isDot part = false := by
  have hplain : ∀ text : List Char, text.all (IsPlain ·) = true → ∀ c ∈ text, IsPlain c := by
    simp
  intro part hpart
  simp only [usualParts, List.mem_cons, List.not_mem_nil, or_false] at hpart
  rcases hpart with rfl | rfl | rfl
  · exact ⟨hplain _ (by decide), by decide, by decide⟩
  · refine ⟨fun c hc => (h.2 c hc).plain.1, ?_⟩
    cases hchars : jobId.toList with
    | nil => exact absurd (String.toList_eq_nil_iff.1 hchars) h.1
    | cons c cs =>
      have hc := (h.2 c (hchars ▸ List.mem_cons_self)).plain.2
      exact Url.not_dots hc.1 hc.2 cs
  · exact ⟨hplain _ (by decide), by decide, by decide⟩

theorem kind_of_web {url : Url} (hweb : isWeb url = true) :
    Url.SchemeKind.of url.scheme = .web := by
  simp only [isWeb, Bool.or_eq_true, decide_eq_true_eq] at hweb
  rcases hweb with h | h <;> rw [h] <;> rfl

/-- A service of the web has a path in parts. -/
theorem openBase_inParts (hopen : openBase settings = .ok base) (hweb : isWeb base = true) :
    ∃ parts, base.route = .segments parts := by
  have hparse : Url.parse settings.baseUrl = .ok base := by
    unfold openBase at hopen
    cases hparse : Url.parse settings.baseUrl with
    | error e =>
      rw [hparse] at hopen
      cases hopen
    | ok u =>
      rw [hparse] at hopen
      exact congrArg _ (Except.ok.inj hopen)
  exact Url.parse_inParts hparse (by simp [kind_of_web hweb])

/-- **The usual path of a source leads to that path** on the service, and to
nothing else, whatever usable job stands in it. -/
theorem resolve_usual {parts : List (List Char)} (hroute : base.route = .segments parts)
    (hweb : isWeb base = true) {jobId : String} (hjob : UsableJob jobId) :
    resolve base (Text.replaced jobPlace jobId ({} : Settings).sourcePath)
      = .ok { base with route := .segments (usualParts jobId), query := none, fragment := none } := by
  have hplain := usualParts_plain hjob
  have hresolve := Url.resolve_plain hroute (kind_of_web hweb) (by decide)
    (fun part hpart => (hplain part hpart).1) (fun part hpart => (hplain part hpart).2)
  rw [replaced_usual, resolve]
  exact congrArg (Except.mapError urlFailure) hresolve

theorem targetOf_usual (url : Url) (jobId : String) :
    targetOf { url with route := .segments (usualParts jobId), query := none, fragment := none }
      = "/build/" ++ jobId ++ "/document.tex" := by
  apply String.toList_inj.1
  simp [targetOf, Route.text, usualParts, Url.optionalPart]

/-! ## §5. Extractions. -/

/-- A submission succeeded and named a job. -/
def Named (submitted : Result CompileReply) (jobId : String) : Prop :=
  ∃ reply, submitted = .ok reply ∧ reply.success = true ∧ reply.jobId = some jobId

theorem jobOf_named_iff {submitted : Result CompileReply} {jobId : String} :
    submitted.bind jobOf = .ok jobId ↔ Named submitted jobId := by
  cases submitted with
  | error f => simp [Named, Except.bind]
  | ok reply =>
    show jobOf reply = .ok jobId ↔ _
    cases hsuccess : reply.success <;> cases hjob : reply.jobId <;>
      simp [Named, jobOf, hsuccess, hjob]

theorem sourceUrl_ok_iff {jobId : String} {url : Url} :
    sourceUrl settings base jobId = .ok url
      ↔ UsableJob jobId
        ∧ resolve base (Text.replaced jobPlace jobId settings.sourcePath) = .ok url := by
  rw [← isUsableJob_iff]
  cases husable : isUsableJob jobId <;> simp [sourceUrl, sourcePathFor, husable, bind, Except.bind]

/-- Whatever is sent comes to an end, since the wait for it is limited. -/
theorem send_after (link : Link σ) (limit : Duration) (request : Request) (s : σ) :
    ∃ elapsed answer s', send link limit request s = (.after elapsed answer, s') := by
  obtain ⟨elapsed, answer, hwithin⟩ := Timed.within_after limit (.error .timedOut)
    (follow link { request with url := withoutCredentials request.url } s redirectLimit).1
  exact ⟨elapsed, answer, _, Prod.ext hwithin rfl⟩

theorem submit_after (link : Link σ) (settings : Settings) (base : Url)
    (request : CompileRequest) (net : σ) : ∃ elapsed submitted between,
      (remote link settings base).submit request net = (.after elapsed submitted, between) := by
  rw [remote, submit_eq]
  cases resolve base settings.renderPath with
  | error f => exact ⟨_, _, _, rfl⟩
  | ok url =>
    obtain ⟨elapsed, answer, between, hsend⟩ := send_after link settings.requestTimeout
      { method := .post, url, body := some request.wireText } net
    simp only [withUrl_ok, exchange, hsend]
    exact ⟨_, _, _, rfl⟩

section Results

variable {jobId : String} {f : Failure} {submitted : Result CompileReply}
  (hsubmit : (remote link settings base).submit request net = (.after elapsed submitted, between))

include hsubmit

/-- A submission that names no job ends an extraction. -/
theorem extractSource_error (hjob : submitted.bind jobOf = .error f) :
    (remote link settings base).extractSource request net = (.after elapsed (.error f), between) := by
  cases submitted with
  | error e =>
    obtain rfl : e = f := Except.error.inj hjob
    simp [CompileService.extractSource, Call.andThen, hsubmit]
  | ok reply => rw [extractSource_unusable hsubmit hjob, Duration.add_zero]

/-- A submission that names a job is followed by the fetching of its source. -/
theorem extractSource_named (hjob : Named submitted jobId) :
    (remote link settings base).extractSource request net
      = (((remote link settings base).fetchSource jobId between).1.later elapsed,
          ((remote link settings base).fetchSource jobId between).2) := by
  obtain ⟨reply, rfl, hsuccess, hid⟩ := hjob
  simp [CompileService.extractSource, Call.andThen, hsubmit, jobOf, hsuccess, hid]

/-- A source that is nowhere is not asked for. -/
theorem extractSource_nowhere (hjob : Named submitted jobId)
    (hurl : sourceUrl settings base jobId = .error f) :
    (remote link settings base).extractSource request net = (.after elapsed (.error f), between) := by
  have hfetch : (remote link settings base).fetchSource jobId between
      = (.now (.error f), between) := by
    rw [remote, fetchSource_eq, hurl, withUrl_error]
    rfl
  rw [extractSource_named hsubmit hjob, hfetch]
  show (Timed.after (elapsed + .zero) _, _) = _
  rw [Duration.add_zero]

end Results

/-- All that can become of an extraction from a network, after a submission with
a result, with the requests that follow it. -/
structure Careful (link : Link σ) (settings : Settings) (base : Url) (request : CompileRequest)
    (net between : σ) (elapsed : Duration) (submitted : Result CompileReply)
    (further : List Request) : Prop where
  submits : (remote link settings base).submit request net = (.after elapsed submitted, between)
    ∧ Sends ((notingRemote link settings base).submit request)
      ((remote link settings base).submit request) net (submission settings base request)
  /-- One submission is sent, and what follows it. -/
  sent : Sends ((notingRemote link settings base).extractSource request)
    ((remote link settings base).extractSource request) net
    (submission settings base request ++ further)
  atMostOne : further.length ≤ 1
  /-- What follows is for the source of a usable job that the submission named. -/
  asked : ∀ next, next ∈ further ↔ ∃ jobId url, Named submitted jobId ∧ UsableJob jobId
    ∧ resolve base (Text.replaced jobPlace jobId settings.sourcePath) = .ok url
    ∧ next = { method := .get, url }
  /-- A job stands in every place for it, and nothing else of the path changes. -/
  everyPlace : ∃ pieces : List String, settings.sourcePath = jobPlace.intercalate pieces
    ∧ (∀ piece ∈ pieces, ¬jobPlace.toList <:+: piece.toList)
    ∧ ∀ jobId, Text.replaced jobPlace jobId settings.sourcePath = jobId.intercalate pieces
  failed : ∀ f, submitted = .error f →
    (remote link settings base).extractSource request net = (.after elapsed (.error f), between)
  rejected : ∀ reply, submitted = .ok reply → reply.success = false →
    (remote link settings base).extractSource request net
      = (.after elapsed (.error ⟨.rejected, reply.detail.getD "conversion failed"⟩), between)
  jobless : ∀ reply, submitted = .ok reply → reply.success = true → reply.jobId = none →
    (remote link settings base).extractSource request net
      = (.after elapsed (.error ⟨.protocol, "response carried no job_id"⟩), between)
  unusable : ∀ jobId, Named submitted jobId → ¬UsableJob jobId →
    (remote link settings base).extractSource request net
      = (.after elapsed (.error ⟨.protocol, "unusable job_id " ++ Text.quoted jobId⟩), between)
  unresolved : ∀ jobId f, Named submitted jobId → UsableJob jobId →
    resolve base (Text.replaced jobPlace jobId settings.sourcePath) = .error f →
    (remote link settings base).extractSource request net = (.after elapsed (.error f), between)
  /-- The answer to what follows is what the extraction brings. -/
  fetched : ∀ jobId url, Named submitted jobId → UsableJob jobId →
    resolve base (Text.replaced jobPlace jobId settings.sourcePath) = .ok url →
    ∃ answer net', exchange (send link settings.requestTimeout) { method := .get, url }
        (readText url) between = (answer, net')
      ∧ (remote link settings base).extractSource request net = (answer.later elapsed, net')
  /-- On a service of the web, the usual path is asked for as it is written. -/
  usual : openBase settings = .ok base → isWeb base = true →
    settings.sourcePath = ({} : Settings).sourcePath → ∀ jobId, UsableJob jobId →
    ∃ url, resolve base (Text.replaced jobPlace jobId settings.sourcePath) = .ok url
      ∧ targetOf url = "/build/" ++ jobId ++ "/document.tex" ∧ url.query = none
      ∧ url.scheme = base.scheme ∧ url.authority = base.authority

/-- What follows a submission is at most the request for one source. -/
theorem mem_furtherRequests_iff {submitted : Result CompileReply} {next : Request} :
    next ∈ furtherRequests settings base submitted ↔
      ∃ jobId url, Named submitted jobId ∧ UsableJob jobId
        ∧ resolve base (Text.replaced jobPlace jobId settings.sourcePath) = .ok url
        ∧ next = { method := .get, url } := by
  have hmem : ∀ (url : Result Url) (next : Request),
      next ∈ requestTo url (fun url => { method := .get, url })
        ↔ ∃ found, url = .ok found ∧ next = { method := .get, url := found } := by
    intro url next
    cases url <;> simp [requestTo]
  unfold furtherRequests
  rw [hmem]
  constructor
  · rintro ⟨url, hurl, rfl⟩
    cases hjob : submitted.bind jobOf with
    | error f =>
      rw [hjob] at hurl
      cases hurl
    | ok jobId =>
      rw [hjob] at hurl
      obtain ⟨husable, hresolve⟩ := sourceUrl_ok_iff.1 hurl
      exact ⟨jobId, url, jobOf_named_iff.1 hjob, husable, hresolve, rfl⟩
  · rintro ⟨jobId, url, hnamed, husable, hresolve, rfl⟩
    refine ⟨url, ?_, rfl⟩
    rw [jobOf_named_iff.2 hnamed]
    exact sourceUrl_ok_iff.2 ⟨husable, hresolve⟩

theorem furtherRequests_length (settings : Settings) (base : Url)
    (submitted : Result CompileReply) :
    (furtherRequests settings base submitted).length ≤ 1 := by
  unfold furtherRequests requestTo
  split <;> simp

/-- **An extraction never follows a hostile job.**  From every network and for
every request, one submission is sent, and at most one request follows it: for
the source of a job that can stand in a path.  In all other cases the failure
tells what was missing. -/
theorem extraction_careful (link : Link σ) (settings : Settings) (base : Url)
    (request : CompileRequest) (net : σ) : ∃ elapsed submitted between further,
      Careful link settings base request net between elapsed submitted further := by
  obtain ⟨elapsed, submitted, between, hsubmit⟩ := submit_after link settings base request net
  exact ⟨elapsed, submitted, between, furtherRequests settings base submitted,
    { submits := ⟨hsubmit, submit_sends link settings base request net⟩
      sent := extractSource_sends hsubmit
      atMostOne := furtherRequests_length settings base submitted
      asked := fun _ => mem_furtherRequests_iff
      everyPlace := Text.replaced_pieces rfl (by decide) settings.sourcePath
      failed := by
        rintro f rfl
        exact extractSource_error hsubmit rfl
      rejected := by
        rintro reply rfl hsuccess
        apply extractSource_error hsubmit
        show jobOf reply = _
        simp [jobOf, hsuccess]
      jobless := by
        rintro reply rfl hsuccess hjob
        apply extractSource_error hsubmit
        show jobOf reply = _
        simp [jobOf, hsuccess, hjob]
      unusable := by
        intro jobId hnamed hhostile
        rw [← isUsableJob_iff, Bool.not_eq_true] at hhostile
        apply extractSource_nowhere hsubmit hnamed
        simp [sourceUrl, sourcePathFor, hhostile, bind, Except.bind]
      unresolved := by
        intro jobId f hnamed husable hresolve
        apply extractSource_nowhere hsubmit hnamed
        simp [sourceUrl, sourcePathFor, (isUsableJob_iff jobId).2 husable, bind, Except.bind,
          hresolve]
      fetched := by
        intro jobId url hnamed husable hresolve
        have hurl := sourceUrl_ok_iff.2 ⟨husable, hresolve⟩
        have hfetch : (remote link settings base).fetchSource jobId between
            = exchange (send link settings.requestTimeout) { method := .get, url }
              (readText url) between := by
          rw [remote, fetchSource_eq, hurl, withUrl_ok]
        have hextract := extractSource_named hsubmit hnamed
        rw [hfetch] at hextract
        generalize exchange (send link settings.requestTimeout) _ _ between = arrived at hextract ⊢
        exact ⟨arrived.1, arrived.2, rfl, hextract⟩
      usual := by
        intro hopen hweb hpath jobId hjob
        obtain ⟨parts, hroute⟩ := openBase_inParts hopen hweb
        rw [hpath]
        exact ⟨_, resolve_usual hroute hweb hjob, targetOf_usual base jobId, rfl, rfl, rfl⟩ }⟩

/-- A reply with a plain job. -/
def plainReply : Response := saying "\x7b\"job_id\":\"ab\"\x7d"

/-- A reply with a job that leads upwards. -/
def hostileReply : Response := saying "\x7b\"job_id\":\"../x\"\x7d"

/-- A plain job is followed to its source, and one that leads upwards is refused. -/
theorem job_followed_or_refused :
    (∃ further, Careful (serving plainReply) {} depot {} () () .zero (.ok { jobId := some "ab" })
        further
      ∧ ∀ next, next ∈ further ↔ next
        = { method := .get, url := { depot with route := .segments (usualParts "ab") } })
    ∧ ∃ further, Careful (serving hostileReply) {} depot {} () () .zero
        (.ok { jobId := some "../x" }) further
      ∧ further = []
      ∧ (remote (serving hostileReply) {} depot).extractSource {} ()
        = (.now (.error ⟨.protocol, "unusable job_id \"../x\""⟩), ()) := by
  constructor
  · obtain ⟨elapsed, submitted, between, further, h⟩ :=
      extraction_careful (serving plainReply) {} depot {} ()
    have htext : plainReply.body.text = .ok "\x7b\"job_id\":\"ab\"\x7d" :=
      congrArg Except.ok (by decide +kernel)
    have hreply : readReply "\x7b\"job_id\":\"ab\"\x7d" = some { jobId := some "ab" } := by decide
    cases h.submits.1.symm.trans (submit_of_answer rfl rfl rfl htext hreply)
    have husable : UsableJob "ab" := (isUsableJob_iff "ab").1 (by decide)
    have hweb : isWeb depot = true := by decide
    have hresolve := resolve_usual rfl hweb husable
    refine ⟨further, h, fun next => (h.asked next).trans ⟨?_, ?_⟩⟩
    · rintro ⟨jobId, url, ⟨reply, hreply, _, hjob⟩, _, hurl, rfl⟩
      cases hreply
      cases hjob
      cases hurl.symm.trans hresolve
      rfl
    · rintro rfl
      exact ⟨"ab", _, ⟨_, rfl, rfl, rfl⟩, husable, hresolve, rfl⟩
  · obtain ⟨elapsed, submitted, between, further, h⟩ :=
      extraction_careful (serving hostileReply) {} depot {} ()
    have htext : hostileReply.body.text = .ok "\x7b\"job_id\":\"../x\"\x7d" :=
      congrArg Except.ok (by decide +kernel)
    have hreply : readReply "\x7b\"job_id\":\"../x\"\x7d" = some { jobId := some "../x" } := by
      decide
    cases h.submits.1.symm.trans (submit_of_answer rfl rfl rfl htext hreply)
    have hhostile : ¬UsableJob "../x" := by
      intro husable
      exact absurd (husable.2 '.' (by decide)) (by decide)
    refine ⟨further, h, List.eq_nil_iff_forall_not_mem.2 fun next hnext => ?_, ?_⟩
    · obtain ⟨jobId, url, ⟨reply, hreply, _, hjob⟩, husable, _⟩ := (h.asked next).1 hnext
      cases hreply
      cases hjob
      exact hhostile husable
    · have hrefused := h.unusable "../x" ⟨_, rfl, rfl, rfl⟩ hhostile
      have hquoted : Text.quoted "../x" = "\"../x\"" := by decide +kernel
      rw [hquoted] at hrefused
      exact hrefused

end RenderDesk.Service
