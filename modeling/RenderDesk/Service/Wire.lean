/-
  RenderDesk.Service.Wire
  ───────────────────────
  What goes over the wire: the text of a request, and the reading of replies.

  A reply is an object of which only some members are read, or an array of
  their values in order.  A member that is read may come only once, and those
  that are missing have a value of their own.

  Main statement: `takeMembers_unknown` — members that are not read do not
  matter.
-/
import RenderDesk.Json.Read
import RenderDesk.Service.Exchange

namespace RenderDesk.Service

open RenderDesk.Json

/-! ## §1. Requests. -/

/-- The text of a request. -/
def CompileRequest.wireText (r : CompileRequest) : String :=
  String.ofList (
    "\x7b\"content\":".toList ++ quotedText r.content.toList
    ++ ",\"template\":".toList ++ quotedText r.template.toList
    ++ ",\"compile\":".toList ++ (toString r.compile).toList ++ "\x7d".toList)

/-! ## §2. The members of a reply. -/

inductive Field where
  | success
  | log
  | pdfUrl
  | jobId
  | detail
  deriving Repr, DecidableEq

/-- The member with a name; the log has two names. -/
def Field.named? (name : String) : Option Field :=
  match name with
  | "success" => some .success
  | "log" | "logs" => some .log
  | "pdf_url" => some .pdfUrl
  | "job_id" => some .jobId
  | "detail" => some .detail
  | _ => none

/-- What has been read of a reply. -/
structure Draft where
  success : Option Bool := none
  log : Option (Option String) := none
  pdfUrl : Option (Option String) := none
  jobId : Option (Option String) := none
  detail : Option (Option String) := none
  deriving Repr, DecidableEq

/-- A text or nothing. -/
def text? : Value → Option (Option String)
  | .null => some none
  | .string (some text) => some (some text)
  | _ => none

def flag? : Value → Option Bool
  | .bool b => some b
  | _ => none

/-- Puts a value in a place that is free. -/
def fill (place : Option α) (value : Option α) : Option (Option α) :=
  match place, value with
  | none, some a => some (some a)
  | _, _ => none

/-- Takes in the value of a member that is read. -/
def Draft.take (d : Draft) (v : Value) : Field → Option Draft
  | .success => (fill d.success (flag? v)).map fun success => { d with success }
  | .log => (fill d.log (text? v)).map fun log => { d with log }
  | .pdfUrl => (fill d.pdfUrl (text? v)).map fun pdfUrl => { d with pdfUrl }
  | .jobId => (fill d.jobId (text? v)).map fun jobId => { d with jobId }
  | .detail => (fill d.detail (text? v)).map fun detail => { d with detail }

/-- Takes in members one by one. -/
def Draft.takeMembers (d : Draft) : List (Option String × Value) → Option Draft
  | [] => some d
  | (none, _) :: _ => none
  | (some name, v) :: rest =>
    match Field.named? name with
    | none => d.takeMembers rest
    | some field => (d.take v field).bind (·.takeMembers rest)

/-- The reply, with a value for what is missing. -/
def Draft.reply (d : Draft) : CompileReply where
  success := d.success.getD true
  log := d.log.getD none
  pdfUrl := d.pdfUrl.getD none
  jobId := d.jobId.getD none
  detail := d.detail.getD none

/-! ## §3. Replies. -/

/-- The reply in the members of an object. -/
def replyOfMembers (members : List (Option String × Value)) : Option CompileReply :=
  (Draft.takeMembers {} members).map Draft.reply

/-- The order of the values in an array. -/
def fieldOrder : List Field := [.success, .log, .pdfUrl, .jobId, .detail]

/-- The reply in the items of an array. -/
def replyOfItems (items : List Value) : Option CompileReply :=
  if fieldOrder.length < items.length then none
  else
    ((items.zip fieldOrder).foldlM (fun (d : Draft) (v, field) => d.take v field) {}).map
      Draft.reply

def replyOf : Value → Option CompileReply
  | .object members => replyOfMembers members
  | .array items => replyOfItems items
  | _ => none

/-- Reads a reply. -/
def readReply (text : String) : Option CompileReply := (read text.toList).bind replyOf

/-! ## §4. Lists of templates. -/

/-- A list of names. -/
def names? : Value → Option (List String)
  | .array items => items.mapM fun v => (text? v).bind id
  | _ => none

/-- The list in the members of an object, where it comes once. -/
def templatesOfMembers (found : Option (List String)) :
    List (Option String × Value) → Option (List String)
  | [] => found
  | (none, _) :: _ => none
  | (some name, v) :: rest =>
    if name = "templates" then
      match found, names? v with
      | none, some names => templatesOfMembers (some names) rest
      | _, _ => none
    else templatesOfMembers found rest

def templatesOf : Value → Option (List String)
  | .object members => templatesOfMembers none members
  | .array [v] => names? v
  | _ => none

/-- Reads a list of templates. -/
def readTemplates (text : String) : Option (List String) := (read text.toList).bind templatesOf

/-! ## §5. Reasons of refusals. -/

/-- How deep a value may be nested. -/
def depthLimit : Nat := 127

/-- The reason that the body of a refusal gives: a text, or the text of any
other value. -/
def readDetail (text : String) : Option String := do
  let v ← read text.toList
  if depthLimit < v.depth then none
  else
    let _ ← v.compact
    match v with
    | .object members =>
      match members.reverse.find? (·.1 == some "detail") with
      | some (_, .null) | none => none
      | some (_, .string detail) => detail
      | some (_, other) => other.compact.map String.ofList
    | _ => none

/-! ## §6. Laws. -/

theorem takeMembers_unknown {name : String} (h : Field.named? name = none) (v : Value)
    (d : Draft) (rest : List (Option String × Value)) :
    d.takeMembers ((some name, v) :: rest) = d.takeMembers rest := by
  simp [Draft.takeMembers, h]

end RenderDesk.Service
