/-
  RenderDesk.Http.Client
  ──────────────────────
  Sending a request and following redirects, over a link to the network.

  The link makes one exchange.  A request with credentials in its URL is sent
  without them in it.  Redirects are followed up to a limit; most of them
  turn a request into a plain one without a body.
-/
import RenderDesk.Http.Message
import RenderDesk.Timed

namespace RenderDesk.Http

/-! ## §1. Links. -/

/-- What an exchange brings. -/
abbrev Answer := Except SendError Response

/-- A way to make one exchange; `σ` is the network. -/
structure Link (σ : Type) where
  exchange : Request → σ → Timed Answer × σ

/-- A network that nothing can be reached through. -/
def unreachable : Link σ := ⟨fun _ s => (.now (.error .unreachable), s)⟩

/-! ## §2. Redirects. -/

/-- How many redirects are followed. -/
def redirectLimit : Nat := 10

/-- Whether a URL is one of the web. -/
def isWeb (url : Url) : Bool :=
  url.scheme = "http".toList || url.scheme = "https".toList

/-- A URL without a name and a password. -/
def withoutCredentials (url : Url) : Url :=
  { url with authority := url.authority.map fun a => { a with username := [], password := none } }

/-- The request that a response sends on to another place. -/
def redirected? (request : Request) (response : Response) : Option Request :=
  match response.location with
  | none => none
  | some location =>
    match request.url.resolve location with
    | .error _ => none
    | .ok url =>
      match response.status with
      | 301 | 302 | 303 => some { method := .get, url }
      | 307 | 308 => some { request with url }
      | _ => none

/-! ## §3. Sending. -/

/-- Makes exchanges until a response is no redirect. -/
def follow (link : Link σ) (request : Request) (s : σ) : Nat → Timed Answer × σ
  | 0 => exchangeWeb link request s fun _ => some (.error .tooManyRedirects)
  | left + 1 =>
    match exchangeWeb link request s fun _ => none with
    | (.after elapsed (.ok response), s) =>
      match redirected? request response with
      | none => (.after elapsed (.ok response), s)
      | some request =>
        let (answer, s) := follow link request s left
        (answer.later elapsed, s)
    | other => other
where
  /-- One exchange, unless the address is not one of the web; `instead` is
  taken in place of a redirect. -/
  exchangeWeb (link : Link σ) (request : Request) (s : σ) (instead : Request → Option Answer) :
      Timed Answer × σ :=
    if isWeb request.url then
      match link.exchange request s with
      | (.after elapsed (.ok response), s) =>
        let answer := ((redirected? request response).bind instead).getD (.ok response)
        (.after elapsed answer, s)
      | other => other
    else (.now (.error .notHttp), s)

/-- A way to send a request and to wait for what it brings. -/
abbrev Sender (σ : Type) := Request → σ → Timed Answer × σ

/-- Sends a request, waiting no longer than a limit. -/
def send (link : Link σ) (limit : Duration) : Sender σ := fun request s =>
  let request := { request with url := withoutCredentials request.url }
  let (answer, s) := follow link request s redirectLimit
  (answer.within limit (.error .timedOut), s)

end RenderDesk.Http
