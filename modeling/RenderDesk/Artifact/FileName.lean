/-
  RenderDesk.Artifact.FileName
  ────────────────────────────
  The file name under which an artifact is exported: the title made safe for
  every common file system, and `.pdf`.

  Forbidden characters become underscores, runs of underscores one, the ends
  are trimmed, the stem is cut to 80 bytes between characters, and a name
  that a device owns gets an underscore.

  Main statement: `byteLength_takeBytes` — the cut stem fits its limit.
-/
import RenderDesk.Text.Blank

namespace RenderDesk.Artifact

open RenderDesk.Text

/-! ## §1. Characters and names that are not allowed. -/

/-- The most bytes of a stem. -/
def stemLimit : Nat := 80

/-- The stem used when nothing of a title is left. -/
def untitled : List Char := "untitled".toList

/-- Characters that some file system refuses: controls and `\ / : * ? " < > |`. -/
def isForbidden (c : Char) : Bool :=
  c.toNat < 0x20 || "\\/:*?\"<>|".toList.contains c

/-- Characters that must not stand at the ends of a stem. -/
def isEdge (c : Char) : Bool := c == '_' || c == ' ' || c == '.'

/-- The names of devices. -/
def deviceNames : List (List Char) :=
  ["CON", "PRN", "AUX", "NUL", "COM1", "COM2", "COM3", "COM4", "COM5", "COM6", "COM7", "COM8",
    "COM9", "LPT1", "LPT2", "LPT3", "LPT4", "LPT5", "LPT6", "LPT7", "LPT8", "LPT9"].map
    String.toList

/-- Whether a stem names a device, in any case of its letters. -/
def isDeviceName (stem : List Char) : Bool :=
  deviceNames.contains (stem.map Char.toUpper)

/-! ## §2. The steps from a title to a stem. -/

/-- Replaces forbidden characters by underscores. -/
def replaceForbidden (cs : List Char) : List Char :=
  cs.map fun c => if isForbidden c then '_' else c

/-- Leaves one underscore of each run. -/
def collapse : List Char → List Char
  | [] => []
  | [c] => [c]
  | c :: d :: cs => if c = '_' ∧ d = '_' then collapse (d :: cs) else c :: collapse (d :: cs)

/-- The number of bytes of a text in UTF-8. -/
def byteLength (cs : List Char) : Nat := cs.foldr (fun c n => c.utf8Size + n) 0

/-- The longest start of a text, in whole characters, of at most `limit` bytes. -/
def takeBytes (limit : Nat) : List Char → List Char
  | [] => []
  | c :: cs => if c.utf8Size ≤ limit then c :: takeBytes (limit - c.utf8Size) cs else []

/-- The title with safe characters and trimmed ends, before it is cut. -/
def cleanTitle (title : List Char) : List Char :=
  match trimBoth isEdge (collapse (replaceForbidden title)) with
  | [] => untitled
  | cs => cs

/-- The stem for a title. -/
def fileStem (title : List Char) : List Char :=
  let stem := takeBytes stemLimit (cleanTitle title)
  if isDeviceName stem then stem ++ ['_'] else stem

/-- The file name for a title, or for none. -/
def fileName (title : Option String) : String :=
  String.ofList (fileStem ((title.map String.toList).getD untitled)) ++ ".pdf"

/-! ## §3. Laws. -/

theorem byteLength_takeBytes (limit : Nat) (cs : List Char) :
    byteLength (takeBytes limit cs) ≤ limit := by
  induction cs generalizing limit with
  | nil => simp [takeBytes, byteLength]
  | cons c cs ih =>
    unfold takeBytes
    split
    · next h =>
      have := ih (limit - c.utf8Size)
      simp only [byteLength, List.foldr_cons] at this ⊢
      omega
    · simp [byteLength]

theorem takeBytes_start (limit : Nat) (cs : List Char) : takeBytes limit cs <+: cs := by
  induction cs generalizing limit with
  | nil => simp [takeBytes]
  | cons c cs ih =>
    unfold takeBytes
    split
    · exact List.cons_prefix_cons.2 ⟨rfl, ih _⟩
    · exact List.nil_prefix

end RenderDesk.Artifact
