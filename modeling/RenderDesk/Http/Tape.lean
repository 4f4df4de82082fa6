/-
  RenderDesk.Http.Tape
  ────────────────────
  A network of which some answers are known beforehand.

  Exchanges are answered from a tape, in order.  At its end the tape notes
  which request comes next, so that its answer can be got elsewhere and the
  whole be played again.

  Main statements:
    * `tape_recorded` — a recorded answer is given as it is;
    * `tape_wanted` — a request without one is noted, if it is the first.
-/
import RenderDesk.Http.Client

namespace RenderDesk.Http

/-! ## §1. Tapes. -/

structure Tape where
  /-- The answers that are still to be given. -/
  recorded : List (Timed Answer) := []
  /-- The first request that had none. -/
  wanted : Option Request := none

/-- The network of a tape. -/
def tape : Link Tape where
  exchange request t :=
    match t.recorded with
    | answer :: recorded => (answer, { t with recorded })
    | [] => (.never, { t with wanted := t.wanted.or (some request) })

/-! ## §2. Laws. -/

theorem tape_recorded (request : Request) (answer : Timed Answer)
    (recorded : List (Timed Answer)) (wanted : Option Request) :
    tape.exchange request ⟨answer :: recorded, wanted⟩ = (answer, ⟨recorded, wanted⟩) := rfl

theorem tape_wanted (request : Request) (wanted : Option Request) :
    tape.exchange request ⟨[], wanted⟩ = (.never, ⟨[], wanted.or (some request)⟩) := rfl

end RenderDesk.Http
