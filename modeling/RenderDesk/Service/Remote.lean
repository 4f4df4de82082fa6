/-
  RenderDesk.Service.Remote
  ─────────────────────────
  The compile service over the network.

  Every reference is resolved against the base URL.  A status that is no
  success is a failure, with the reason that its body gives or else that of
  the status.  A job is asked for only when its number can stand in a path,
  and an artifact is read only as far as the limit.

  Main statement: `collect_limit` — never more than the limit is kept.
-/
import RenderDesk.Http.Client
import RenderDesk.Service.Calls
import RenderDesk.Service.Settings
import RenderDesk.Service.Wire
import RenderDesk.Text.Quoted
import RenderDesk.Text.Replace

namespace RenderDesk.Service

open RenderDesk.Http
open RenderDesk.Url (UrlError)

/-! ## §1. Failures. -/

def urlFailure (e : UrlError) : Failure := ⟨.invalidUrl, e.text⟩

def sendFailure (url : Url) (e : SendError) : Failure :=
  match e with
  | .timedOut => ⟨.timeout, e.text url⟩
  | e => ⟨.network, e.text url⟩

/-- The failure of a body that does not come to its end. -/
def bodyFailure (url : Url) : Ending → Failure
  | .timedOut => ⟨.timeout, "error reading a body for url (" ++ url.text ++ ")"⟩
  | _ => ⟨.protocol, "error decoding response body for url (" ++ url.text ++ ")"⟩

/-- The failure of a text that is not what was expected. -/
def shapeFailure : Failure := ⟨.protocol, "not JSON of the expected shape"⟩

def tooLarge (limit actual : Nat) : Failure :=
  ⟨.tooLarge limit (some actual), "artifact too large"⟩

/-- The failure of a status that is no success. -/
def statusFailure (r : Response) : Failure :=
  let body := match r.body.text with
    | .ok text => text
    | .error _ => ""
  ⟨.httpStatus r.status, (readDetail body).getD (statusText r.status)⟩

/-! ## §2. References. -/

/-- The base of all references. -/
def openBase (settings : Settings) : Result Url :=
  (Url.parse settings.baseUrl).mapError urlFailure

def resolve (base : Url) (reference : String) : Result Url :=
  (base.resolve reference).mapError urlFailure

/-- Whether a job's number can stand in a path. -/
def isUsableJob (jobId : String) : Bool :=
  !jobId.isEmpty && jobId.toList.all fun c => c.isAlphanum || c = '-' || c = '_'

/-- The path of a job's source. -/
def sourcePathFor (settings : Settings) (jobId : String) : Result String :=
  if isUsableJob jobId then .ok (Text.replaced jobPlace jobId settings.sourcePath)
  else .error ⟨.protocol, "unusable job_id " ++ Text.quoted jobId⟩

/-! ## §3. Artifacts. -/

/-- What a download holds when it stops: the bytes that it kept, and the size
that was too much, if there was one. -/
structure Download where
  kept : ByteArray
  excess : Option Nat := none

/-- Keeps chunks as long as they are not more than the limit together. -/
def collect (limit : Nat) (kept : ByteArray) : List ByteArray → Download
  | [] => { kept }
  | chunk :: rest =>
    let size := kept.size + chunk.size
    if limit < size then { kept, excess := some size } else collect limit (kept ++ chunk) rest

/-- The bytes of an artifact. -/
def readArtifact (limit : Nat) (url : Url) (r : Response) : Result ByteArray :=
  match r.declaredLength.filter (limit < ·) with
  | some declared => .error (tooLarge limit declared)
  | none =>
    let download := collect limit .empty r.body.chunks
    match download.excess with
    | some size => .error (tooLarge limit size)
    | none =>
      match r.body.ending with
      | .complete => .ok download.kept
      | ending => .error (bodyFailure url ending)

/-! ## §4. Calls. -/

/-- Sends a request and reads what comes back, if the status is a success. -/
def exchange (sender : Sender σ) (request : Request) (readBody : Response → Result α) :
    Call σ α := fun s =>
  let (answer, s) := sender request s
  let result := answer.map fun
    | .error e => .error (sendFailure request.url e)
    | .ok response =>
      if response.isSuccess then readBody response else .error (statusFailure response)
  (result, s)

/-- The text of a body. -/
def readText (url : Url) (r : Response) : Result String :=
  r.body.text.mapError (bodyFailure url)

/-- Continues with a URL, unless there is none. -/
def withUrl (url : Result Url) (call : Url → Call σ α) : Call σ α :=
  match url with
  | .ok url => call url
  | .error f => Call.fail f

/-- A value that was expected. -/
def expected (value : Option α) : Result α :=
  match value with
  | some a => .ok a
  | none => .error shapeFailure

/-- The compile service at a base URL, with a way to send requests to it. -/
def remoteBy (sender : Sender σ) (settings : Settings) (base : Url) : CompileService σ where
  submit request :=
    withUrl (resolve base settings.renderPath) fun url =>
      exchange sender { method := .post, url, body := some request.wireText } fun r => do
        expected (readReply (← readText url r))
  fetchSource jobId :=
    withUrl (do resolve base (← sourcePathFor settings jobId)) fun url =>
      exchange sender { method := .get, url } (readText url)
  listTemplates :=
    withUrl (resolve base settings.templatesPath) fun url =>
      exchange sender { method := .get, url } fun r => do
        expected (readTemplates (← readText url r))
  fetchArtifact reference :=
    withUrl (resolve base reference) fun url =>
      exchange sender { method := .get, url } (readArtifact settings.artifactLimit url)

/-- The compile service at a base URL, over a link. -/
def remote (link : Link σ) (settings : Settings) (base : Url) : CompileService σ :=
  remoteBy (send link settings.requestTimeout) settings base

/-! ## §5. Laws. -/

@[simp] theorem withUrl_ok (url : Url) (call : Url → Call σ α) :
    withUrl (.ok url) call = call url := rfl

@[simp] theorem withUrl_error (f : Failure) (call : Url → Call σ α) :
    withUrl (.error f) call = Call.fail f := rfl

theorem collect_limit {limit : Nat} {kept : ByteArray} (hk : kept.size ≤ limit)
    (chunks : List ByteArray) : (collect limit kept chunks).kept.size ≤ limit := by
  induction chunks generalizing kept with
  | nil => exact hk
  | cons chunk rest ih =>
    simp only [collect]
    split
    · exact hk
    · apply ih
      simp only [ByteArray.size_append]
      omega

end RenderDesk.Service
