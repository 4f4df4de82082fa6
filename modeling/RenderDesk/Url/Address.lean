/-
  RenderDesk.Url.Address
  ──────────────────────
  Hosts that are numbers: addresses of four bytes and of eight pieces.

  A four-byte address may be written with fewer numbers, the last one filling
  what is left, and each number in base 8, 10 or 16.  Of an eight-piece
  address one run of zeros may be left out.
-/
import RenderDesk.Text.Cut
import RenderDesk.Url.Percent

namespace RenderDesk.Url

open RenderDesk.Text

/-! ## §1. Four bytes. -/

/-- A number of an address: `0x` and `0` in front choose the base. -/
def addressNumber? : List Char → Option Nat
  | [] => none
  | '0' :: 'x' :: rest | '0' :: 'X' :: rest => digitsValue? 16 rest
  | '0' :: c :: rest => digitsValue? 8 (c :: rest)
  | cs => digitsValue? 10 cs

/-- The parts of a host between dots, without an empty last one. -/
def dotParts (cs : List Char) : List (List Char) :=
  let ps := parts '.' cs
  if ps.getLast? = some [] then ps.dropLast else ps

/-- Whether a host is to be read as a four-byte address: its last part is a
number, or is written with digits only. -/
def endsInNumber (cs : List Char) : Bool :=
  match (dotParts cs).getLast? with
  | none => false
  | some last =>
    (!last.isEmpty && last.all fun c => '0' ≤ c && c ≤ '9') || (addressNumber? last).isSome

/-- Adds up the numbers in front of the last one, each one byte. -/
def frontValue : List Nat → Nat → Nat
  | [], _ => 0
  | n :: rest, place => n * Nat.pow 256 place + frontValue rest (place - 1)

/-- A four-byte address as one number. -/
def v4? (cs : List Char) : Option Nat := do
  let numbers ← (dotParts cs).mapM addressNumber?
  let last ← numbers.getLast?
  let front := numbers.dropLast
  if 4 < numbers.length then none
  else if Nat.pow 256 (4 - front.length) ≤ last then none
  else if front.any (255 < ·) then none
  else some (frontValue front 3 + last)

def v4Text (address : Nat) : List Char :=
  ['.'].intercalate
    ([16777216, 65536, 256, 1].map fun place => Nat.toDigits 10 (address / place % 256))

/-! ## §2. Eight pieces. -/

/-- A number of the four bytes at the end of an address. -/
def byte? (cs : List Char) : Option Nat :=
  match cs with
  | [] => none
  | '0' :: _ :: _ => none
  | cs => (digitsValue? 10 cs).filter (· < 256)

/-- Two pieces from four bytes. -/
def v4Pieces? (cs : List Char) : Option (List Nat) := do
  match ← (parts '.' cs).mapM byte? with
  | [a, b, c, d] => some [a * 256 + b, c * 256 + d]
  | _ => none

/-- Reads the groups between colons: `ps` are the pieces so far, `gap` is
where zeros are left out, and `pieceBefore` says that a piece and its colon came
just before. -/
def v6Pieces? (ps : List Nat) (gap : Option Nat) (pieceBefore : Bool) :
    List (List Char) → Option (List Nat × Option Nat)
  | [] => some (ps, gap)
  | [] :: [] => if pieceBefore then none else some (ps, gap)
  | group :: groups =>
    if ps.length = 8 then none
    else
      match group with
      | [] => if gap.isSome then none else v6Pieces? (ps ++ [0]) (some (ps.length + 1)) false groups
      | group =>
        if group.contains '.' then
          if groups.isEmpty && ps.length ≤ 6 then
            (v4Pieces? group).map fun last => (ps ++ last, gap)
          else none
        else if 4 < group.length then none
        else
          match digitsValue? 16 group with
          | some piece => v6Pieces? (ps ++ [piece]) gap true groups
          | none => none

/-- An eight-piece address. -/
def v6? (cs : List Char) : Option (List Nat) :=
  let read := match cs with
    | ':' :: ':' :: rest => v6Pieces? [0] (some 1) false (parts ':' rest)
    | ':' :: _ => none
    | [] => none
    | [_] => none
    | cs => v6Pieces? [] none false (parts ':' cs)
  match read with
  | some (ps, some gap) =>
    some (ps.take gap ++ List.replicate (8 - ps.length) 0 ++ ps.drop gap)
  | some (ps, none) => if ps.length = 8 then some ps else none
  | none => none

/-- How many zeros begin a list. -/
def zeroRun (ps : List Nat) : Nat := (ps.takeWhile (· == 0)).length

/-- The longest run of at least two zeros: how many pieces are in front of it,
and its length. -/
def longestRun (ps : List Nat) : Option (Nat × Nat) :=
  (List.range ps.length).foldl (fun best i =>
    let run := zeroRun (ps.drop i)
    match best with
    | some (_, length) => if length < run then some (i, run) else best
    | none => if 2 ≤ run then some (i, run) else none) none

def piecesText (ps : List Nat) : List Char := [':'].intercalate (ps.map (Nat.toDigits 16))

/-- The text of an eight-piece address, without its brackets. -/
def v6Text (ps : List Nat) : List Char :=
  match longestRun ps with
  | some (front, length) =>
    piecesText (ps.take front) ++ [':', ':'] ++ piecesText (ps.drop (front + length))
  | none => piecesText ps

end RenderDesk.Url
