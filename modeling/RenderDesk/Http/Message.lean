/-
  RenderDesk.Http.Message
  ───────────────────────
  Requests and responses, and the texts for a status.

  Main statement: `isSuccess_iff` — which statuses are those of success.
-/
import RenderDesk.Text.Utf8
import RenderDesk.Url.Parse

namespace RenderDesk.Http

/-! ## §1. Requests. -/

inductive Method where
  | get
  | post
  deriving Repr, DecidableEq

structure Request where
  method : Method
  url : Url
  /-- A text in JSON, if one is sent. -/
  body : Option String := none

/-! ## §2. Responses. -/

/-- How the bytes of a body come to an end. -/
inductive Ending where
  | complete
  /-- They stop before what was announced, or are garbled. -/
  | broken
  | timedOut
  deriving Repr, DecidableEq

/-- A body, in the chunks in which it arrives. -/
structure Body where
  chunks : List ByteArray := []
  ending : Ending := .complete

structure Response where
  status : Nat
  /-- Where a redirect points. -/
  location : Option String := none
  /-- The length that the response announces. -/
  declaredLength : Option Nat := none
  body : Body := {}

/-- Why there is no response. -/
inductive SendError where
  | timedOut
  | unreachable
  /-- The address is not one of the web. -/
  | notHttp
  | tooManyRedirects
  deriving Repr, DecidableEq

def Response.isSuccess (r : Response) : Bool := 200 ≤ r.status && r.status < 300

/-- All bytes of a body. -/
def Body.bytes (b : Body) : ByteArray := b.chunks.foldl (· ++ ·) .empty

/-- The text of a body that comes to its end. -/
def Body.text (b : Body) : Except Ending String :=
  match b.ending with
  | .complete => .ok (Text.Utf8.decodeLossy b.bytes)
  | ending => .error ending

/-! ## §3. Texts. -/

/-- The standard reasons of statuses. -/
def reasons : List (Nat × String) :=
  [(100, "Continue"), (101, "Switching Protocols"), (102, "Processing"), (103, "Early Hints"),
    (200, "OK"), (201, "Created"), (202, "Accepted"), (203, "Non Authoritative Information"),
    (204, "No Content"), (205, "Reset Content"), (206, "Partial Content"), (207, "Multi-Status"),
    (208, "Already Reported"), (226, "IM Used"), (300, "Multiple Choices"),
    (301, "Moved Permanently"), (302, "Found"), (303, "See Other"), (304, "Not Modified"),
    (305, "Use Proxy"), (307, "Temporary Redirect"), (308, "Permanent Redirect"),
    (400, "Bad Request"), (401, "Unauthorized"), (402, "Payment Required"), (403, "Forbidden"),
    (404, "Not Found"), (405, "Method Not Allowed"), (406, "Not Acceptable"),
    (407, "Proxy Authentication Required"), (408, "Request Timeout"), (409, "Conflict"),
    (410, "Gone"), (411, "Length Required"), (412, "Precondition Failed"),
    (413, "Payload Too Large"), (414, "URI Too Long"), (415, "Unsupported Media Type"),
    (416, "Range Not Satisfiable"), (417, "Expectation Failed"), (418, "I'm a teapot"),
    (421, "Misdirected Request"), (422, "Unprocessable Entity"), (423, "Locked"),
    (424, "Failed Dependency"), (425, "Too Early"), (426, "Upgrade Required"),
    (428, "Precondition Required"), (429, "Too Many Requests"),
    (431, "Request Header Fields Too Large"), (451, "Unavailable For Legal Reasons"),
    (500, "Internal Server Error"), (501, "Not Implemented"), (502, "Bad Gateway"),
    (503, "Service Unavailable"), (504, "Gateway Timeout"), (505, "HTTP Version Not Supported"),
    (506, "Variant Also Negotiates"), (507, "Insufficient Storage"), (508, "Loop Detected"),
    (510, "Not Extended"), (511, "Network Authentication Required")]

/-- A status with its reason. -/
def statusText (status : Nat) : String :=
  toString status ++ " " ++ ((reasons.lookup status).getD "<unknown status code>")

/-- Why a request failed, for a URL. -/
def SendError.text (url : Url) (e : SendError) : String :=
  let what := match e with
    | .timedOut | .unreachable => "error sending request"
    | .notHttp => "builder error"
    | .tooManyRedirects => "error following redirect"
  what ++ " for url (" ++ url.text ++ ")"

/-! ## §4. Laws. -/

theorem Response.isSuccess_iff {r : Response} :
    r.isSuccess = true ↔ 200 ≤ r.status ∧ r.status < 300 := by
  simp [isSuccess]

end RenderDesk.Http
