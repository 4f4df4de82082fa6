/-
  RenderDesk.Service.Failure
  ──────────────────────────
  How a call to the compile service fails, and the text shown for it.
-/
import RenderDesk.Duration

namespace RenderDesk.Service

/-- Why a call failed. -/
inductive Cause where
  /-- The address could not be read, or a reference could not be resolved. -/
  | invalidUrl
  /-- The service answered with a status that is no success. -/
  | httpStatus (code : Nat)
  /-- The connection or the answer took too long. -/
  | timeout
  /-- The desk's own deadline for a render passed without an answer. -/
  | deadlineExceeded (after : Duration)
  /-- The service could not be reached, or broke off. -/
  | network
  /-- The answer was not of the expected form. -/
  | protocol
  /-- The service answered that it could not do the job. -/
  | rejected
  /-- The answer is larger than allowed; `actual` is the size seen so far or declared. -/
  | tooLarge (limit : Nat) (actual : Option Nat)
  deriving Repr, DecidableEq

/-- A failed call: why, and what is known beyond that. -/
structure Failure where
  cause : Cause
  message : String
  deriving Repr, DecidableEq

/-- An optional size, as messages show it. -/
def sizeText : Option Nat → String
  | some n => s!"Some({n})"
  | none => "None"

def Cause.text : Cause → String
  | .invalidUrl => "invalid url"
  | .httpStatus code => s!"http status {code}"
  | .timeout => "timeout"
  | .deadlineExceeded after => "no response within " ++ after.text
  | .network => "network error"
  | .protocol => "unexpected response"
  | .rejected => "rejected by backend"
  | .tooLarge limit actual =>
    s!"response too large (max {limit}, actual " ++ sizeText actual ++ ")"

/-- The cause, and the message after a colon when there is one. -/
def Failure.text (f : Failure) : String :=
  if f.message.isEmpty then f.cause.text else f.cause.text ++ ": " ++ f.message

end RenderDesk.Service
