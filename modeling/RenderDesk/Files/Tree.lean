/-
  RenderDesk.Files.Tree
  ─────────────────────
  A tree of directories and files, and how paths are looked up in it.

  Every node is kept under the list of names that leads to it from the root;
  the root itself is always there.  A path is walked name by name from the
  root or from the working directory: each name but the last must name a
  directory, a dot stays, and two dots go up.

  Main statements:
    * `find?_put`, `find?_erase` — a change is seen at its place only.
-/
import RenderDesk.Files.IoError
import RenderDesk.Files.Path

namespace RenderDesk.Files

/-! ## §1. Nodes. -/

/-- The names that lead from the root to a node. -/
abbrev Location := List String

inductive Node where
  | directory
  | file (content : ByteArray)
  deriving Inhabited

instance : DecidableEq Node
  | .directory, .directory => isTrue rfl
  | .directory, .file _ => isFalse (by simp)
  | .file _, .directory => isFalse (by simp)
  | .file content, .file other =>
    match ByteArray.instDecidableEq content other with
    | isTrue h => isTrue (congrArg Node.file h)
    | isFalse h => isFalse (by simpa using h)

/-- A file system, with the directory from which relative paths are walked. -/
structure Tree where
  nodes : List (Location × Node) := []
  working : Location := []
  deriving DecidableEq, Inhabited

namespace Tree

def find? (t : Tree) (l : Location) : Option Node :=
  if l = [] then some .directory else (t.nodes.find? (·.1 == l)).map (·.2)

/-- Takes a node away. -/
def erase (t : Tree) (l : Location) : Tree :=
  { t with nodes := t.nodes.filter (·.1 != l) }

/-- Puts a node in its place, whatever was there before. -/
def put (t : Tree) (l : Location) (node : Node) : Tree :=
  { t.erase l with nodes := (t.erase l).nodes ++ [(l, node)] }

/-! ## §2. Walking a path. -/

/-- The most bytes of a name. -/
def nameLimit : Nat := 255

/-- Paths of this many bytes are too long. -/
def pathLimit : Nat := 4096

/-- One name further from a directory that exists. -/
def enter (t : Tree) (place : Location) (name : String) : Except IoError Location :=
  if name = "." then .ok place
  else if name = ".." then .ok place.dropLast
  else if nameLimit < name.utf8ByteSize then .error .nameTooLong
  else
    match t.find? (place ++ [name]) with
    | some .directory => .ok (place ++ [name])
    | some (.file _) => .error .notADirectory
    | none => .error .notFound

/-- Walks through names that must all be directories. -/
def walk (t : Tree) (place : Location) : List String → Except IoError Location
  | [] => .ok place
  | name :: rest => do t.walk (← t.enter place name) rest

/-- What the last name of a path says. -/
inductive LastName where
  /-- There is no name, or it is a dot or two. -/
  | special
  | plain (name : String)
  deriving Repr, DecidableEq

def LastName.of (name : Option String) : LastName :=
  match name with
  | some name => if name = "." || name = ".." then .special else .plain name
  | none => .special

/-- Whether a path can be handed to the system at all. -/
def checkPath (path : Path) : Except IoError Unit :=
  if path.toList.any (·.toNat == 0) then .error .nulInName
  else if path.isEmpty then .error .notFound
  else if pathLimit ≤ path.utf8ByteSize then .error .nameTooLong
  else .ok ()

/-- Where a path is walked from. -/
def start (t : Tree) (path : Path) : Location :=
  if isAbsolute path then [] else t.working

/-- The directory that holds what a path names, and its last name. -/
def parentOf (t : Tree) (path : Path) : Except IoError (Location × LastName) := do
  checkPath path
  let dir ← t.walk (t.start path) (names path).dropLast
  return (dir, LastName.of (names path).getLast?)

/-- A plain name in a directory: its place and what is there. -/
def slot (t : Tree) (dir : Location) (name : String) :
    Except IoError (Location × Option Node) :=
  if nameLimit < name.utf8ByteSize then .error .nameTooLong
  else .ok (dir ++ [name], t.find? (dir ++ [name]))

/-- What a path names, with its place. -/
def lookup (t : Tree) (path : Path) : Except IoError (Location × Node) := do
  let (dir, last) ← t.parentOf path
  match last with
  | .special => return (← t.walk (t.start path) (names path), .directory)
  | .plain name =>
    match ← t.slot dir name with
    | (_, none) => .error .notFound
    | (place, some (.file content)) =>
      if endsInSlash path then .error .notADirectory else return (place, .file content)
    | (place, some .directory) => return (place, .directory)

/-! ## §3. Differences. -/

/-- The nodes that an earlier tree has not, or has otherwise. -/
def changedSince (t old : Tree) : List (Location × Node) :=
  t.nodes.filter fun n => old.find? n.1 != some n.2

/-! ## §4. Laws. -/

/-- Steps that succeed have all succeeded. -/
theorem bind_eq_ok {ε α β : Type} {x : Except ε α} {f : α → Except ε β} {b : β}
    (h : (x >>= f) = .ok b) : ∃ a, x = .ok a ∧ f a = .ok b := by
  cases x with
  | error e => cases h
  | ok a => exact ⟨a, rfl, h⟩

theorem slot_eq_ok {t : Tree} {dir : Location} {name : String} {found : Location × Option Node}
    (h : t.slot dir name = .ok found) :
    ¬nameLimit < name.utf8ByteSize ∧ found = (dir ++ [name], t.find? (dir ++ [name])) := by
  unfold slot at h
  split at h
  · cases h
  · next hshort =>
    injection h with h
    exact ⟨hshort, h.symm⟩

theorem find?_filter_of_ne {l m : Location} (h : m ≠ l) (nodes : List (Location × Node)) :
    (nodes.filter (·.1 != l)).find? (·.1 == m) = nodes.find? (·.1 == m) := by
  induction nodes with
  | nil => rfl
  | cons n nodes ih =>
    by_cases hl : n.1 = l
    · have hm : n.1 ≠ m := fun hm => h (hm ▸ hl)
      simp [hl, ih, Ne.symm h]
    · by_cases hm : n.1 = m
      · simp [hm, h]
      · simp [hl, hm, ih]

theorem find?_filter_self (l : Location) (nodes : List (Location × Node)) :
    (nodes.filter (·.1 != l)).find? (·.1 == l) = none := by
  simp [List.find?_eq_none]

theorem find?_erase (t : Tree) {l : Location} (h : l ≠ []) (m : Location) :
    (t.erase l).find? m = if m = l then none else t.find? m := by
  by_cases hm : m = []
  · simp [find?, hm, Ne.symm h]
  · by_cases hml : m = l
    · simp [find?, hml, h, erase]
    · simp only [find?, hm, erase, if_false, find?_filter_of_ne hml, hml]

theorem find?_put (t : Tree) {l : Location} (h : l ≠ []) (m : Location) (node : Node) :
    (t.put l node).find? m = if m = l then some node else t.find? m := by
  by_cases hm : m = []
  · simp [find?, hm, Ne.symm h]
  · by_cases hml : m = l
    · simp only [find?, put, erase, hml, h, if_false, if_true, List.find?_append,
        find?_filter_self]
      simp
    · have hlm : (l == m) = false := by simpa using Ne.symm hml
      simp only [find?, hm, hml, put, erase, if_false, List.find?_append, find?_filter_of_ne hml,
        List.find?_cons, hlm, List.find?_nil, Option.or_none]

end Tree

end RenderDesk.Files
