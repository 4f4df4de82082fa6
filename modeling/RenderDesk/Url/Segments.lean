/-
  RenderDesk.Url.Segments
  ───────────────────────
  Reading a path: parts between slashes, of which a dot stays where it is and
  two dots go up by one.

  Paths of files keep the letter of a drive, and lose empty parts at their
  start.

  Main statement: `readPath_plain` — parts without dots are put behind those
  before.
-/
import RenderDesk.Url.Authority

namespace RenderDesk.Url

/-! ## §1. Parts with a meaning. -/

/-- A part with every written-out dot as a dot. -/
def plainDots : List Char → List Char
  | '%' :: '2' :: 'e' :: rest | '%' :: '2' :: 'E' :: rest => '.' :: plainDots rest
  | c :: rest => c :: plainDots rest
  | [] => []

def isDot (part : List Char) : Bool := plainDots part = ['.']

def isTwoDots (part : List Char) : Bool := plainDots part = ['.', '.']

/-- Whether a part is the letter of a drive and a colon. -/
def isDrive : List Char → Bool
  | [c, ':'] => c.isAlpha
  | _ => false

/-- Whether a part is the letter of a drive, with a colon or a bar. -/
def isLooseDrive : List Char → Bool
  | [c, ':'] | [c, '|'] => c.isAlpha
  | _ => false

/-! ## §2. Steps. -/

/-- The parts without the last one; the letter of a drive stays. -/
def goUp (k : SchemeKind) (parts : List (List Char)) : List (List Char) :=
  match k, parts.getLast? with
  | .file, some part => if isDrive part then parts else parts.dropLast
  | _, _ => parts.dropLast

/-- Adds a part of a file's path; if it comes first, it may be or begin with
the letter of a drive. -/
def addToFile (parts : List (List Char)) (part : List Char) : List (List Char) :=
  match parts, part with
  | [], [c, _] => if isLooseDrive part then [[c, ':']] else [part]
  | [], c :: ':' :: rest => if c.isAlpha then [[c, ':'], rest] else [part]
  | parts, part => parts ++ [part]

/-- Takes in one part; `last` says that no slash follows it. -/
def step (k : SchemeKind) (last : Bool) (parts : List (List Char)) (part : List Char) :
    List (List Char) :=
  if isTwoDots part then
    let parts := goUp k parts
    if last then parts ++ [[]] else parts
  else if isDot part then if last then parts ++ [[]] else parts
  else if k = .file then addToFile parts part
  else parts ++ [part]

/-- Takes in parts, the last of which has no slash behind it. -/
def steps (k : SchemeKind) (parts : List (List Char)) : List (List Char) → List (List Char)
  | [] => parts
  | [part] => step k true parts part
  | part :: rest => steps k (step k false parts part) rest

/-! ## §3. Whole paths. -/

/-- The parts of a text between slashes of a kind, encoded. -/
def rawParts (k : SchemeKind) (cs : List Char) : List (List Char) :=
  let slashed := cs.map fun c => if isSlash k c then '/' else c
  (Text.parts '/' slashed).map (encode inPathSet)

/-- A file's path begins with no empty part, unless it has no other. -/
def withoutEmptyStart (k : SchemeKind) (parts : List (List Char)) : List (List Char) :=
  if k = .file then
    match parts.dropWhile (·.isEmpty) with
    | [] => [[]]
    | kept => kept
  else parts

/-- Reads a path behind parts that are there already. -/
def readPath (k : SchemeKind) (before : List (List Char)) (cs : List Char) : List (List Char) :=
  withoutEmptyStart k (steps k before (rawParts k cs))

/-- Reads the path behind an authority. -/
def readPathStart (k : SchemeKind) (cs : List Char) : List (List Char) :=
  match cs with
  | [] => if k.isSpecial then readPath k [] [] else []
  | c :: rest => if isSlash k c then readPath k [] rest else readPath k [] cs

/-! ## §4. Laws. -/

theorem step_plain {part : List Char} (h1 : isTwoDots part = false) (h2 : isDot part = false)
    (last : Bool) (parts : List (List Char)) : step .web last parts part = parts ++ [part] := by
  simp [step, h1, h2]

theorem steps_plain {rest : List (List Char)}
    (h : ∀ part ∈ rest, isTwoDots part = false ∧ isDot part = false) (before : List (List Char)) :
    steps .web before rest = before ++ rest := by
  induction rest generalizing before with
  | nil => simp [steps]
  | cons part rest ih =>
    have hp := h part (by simp)
    cases rest with
    | nil => simp [steps, step_plain hp.1 hp.2]
    | cons next rest =>
      rw [steps, step_plain hp.1 hp.2, ih fun q hq => h q (by simp [hq])]
      · simp
      · simp

theorem readPath_plain {cs : List Char}
    (h : ∀ part ∈ rawParts .web cs, isTwoDots part = false ∧ isDot part = false)
    (before : List (List Char)) : readPath .web before cs = before ++ rawParts .web cs := by
  simp [readPath, withoutEmptyStart, steps_plain h]

end RenderDesk.Url
