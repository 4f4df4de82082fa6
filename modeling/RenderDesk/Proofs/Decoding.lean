/-
  RenderDesk.Proofs.Decoding
  ──────────────────────────
  Which objects are replies, and what they say.

  Members are taken in one by one, each into the place of its field, and a
  place takes one value only.  So after any members a place is as it was, when
  none of them was for it, or it was free and holds the value of the only one.
  Nothing in this depends on the order of members, on those that are for no
  place, or on the name under which the log comes.

  Main statements:
    * `takeMembers_settles`, `takeMembers_of_settles` — what becomes of places;
    * `replyOf_object_iff` — an object is a reply in one case, and says one thing;
    * `replyOf_of_perm` — only the values that fields are given matter;
    * `objects_tolerated` — all of it for one object, up to the submission that it
      answers.
-/
import RenderDesk.Proofs.Answers

namespace RenderDesk.Service

open RenderDesk.Http
open RenderDesk.Json

/-! ## §1. What members give. -/

/-- The members of an object as they are written; a name is `none` when it is no
text. -/
abbrev Members := List (Option String × Value)

/-- The names under which a field comes. -/
def Field.names : Field → List String
  | .success => ["success"]
  | .log => ["log", "logs"]
  | .pdfUrl => ["pdf_url"]
  | .jobId => ["job_id"]
  | .detail => ["detail"]

/-- The values that members give a field. -/
def Field.values (field : Field) (members : Members) : List Value :=
  members.filterMap fun m => if m.1.any (· ∈ field.names) then some m.2 else none

/-- Every member has a name that is a text. -/
def AllNamed (members : Members) : Prop := ∀ m ∈ members, m.1.isSome = true

/-- An object is a reply: no field comes twice, the flag is one, and what else is
read is a text or nothing. -/
structure IsReply (members : Members) : Prop where
  named : AllNamed members
  once : ∀ field : Field, (field.values members).length ≤ 1
  flag : ∀ v ∈ Field.success.values members, ∃ b, v = .bool b
  text : ∀ field ≠ Field.success, ∀ v ∈ field.values members,
    v = .null ∨ ∃ t, v = .string (some t)

/-- The text that a reply has for a field. -/
def CompileReply.text (reply : CompileReply) : Field → Option String
  | .success => none
  | .log => reply.log
  | .pdfUrl => reply.pdfUrl
  | .jobId => reply.jobId
  | .detail => reply.detail

/-- What members say: a reply reports success unless it is told otherwise, and has
the texts that it is given. -/
structure Says (members : Members) (reply : CompileReply) : Prop where
  success : reply.success = false ↔ .bool false ∈ Field.success.values members
  text : ∀ field ≠ Field.success, ∀ t,
    reply.text field = some t ↔ .string (some t) ∈ field.values members

theorem named?_eq_some_iff {name : String} {field : Field} :
    Field.named? name = some field ↔ name ∈ field.names := by
  unfold Field.named?
  split <;> cases field <;> simp_all [Field.names]

theorem allNamed_cons {m : Option String × Value} {members : Members} :
    AllNamed (m :: members) ↔ m.1.isSome = true ∧ AllNamed members := by
  simp [AllNamed]

theorem values_append (field : Field) (front rest : Members) :
    field.values (front ++ rest) = field.values front ++ field.values rest :=
  List.filterMap_append

/-- A member with a name that is no field's gives nothing. -/
theorem values_unknown {name : String} (h : ∀ field : Field, name ∉ field.names) (field : Field)
    (v : Value) (rest : Members) : field.values ((some name, v) :: rest) = field.values rest := by
  simp [Field.values, h field]

/-- A member gives its value to the one field with its name. -/
theorem values_known {name : String} {given : Field} (h : name ∈ given.names) (field : Field)
    (v : Value) (rest : Members) : field.values ((some name, v) :: rest)
      = if field = given then v :: field.values rest else field.values rest := by
  have hmem : name ∈ field.names ↔ field = given := by
    rw [← named?_eq_some_iff, named?_eq_some_iff.2 h, Option.some.injEq, eq_comm]
  by_cases hfield : field = given <;> simp [Field.values, hmem, h, hfield]

/-! ## §2. Places. -/

/-- What the place of a field holds. -/
inductive Entry where
  | flag (b : Bool)
  | text (text : Option String)

/-- A value as a field holds it. -/
def Field.entry? (field : Field) (v : Value) : Option Entry :=
  match field with
  | .success => (flag? v).map .flag
  | .log | .pdfUrl | .jobId | .detail => (text? v).map .text

/-- What a draft holds in the place of a field. -/
def Draft.entry (d : Draft) : Field → Option Entry
  | .success => d.success.map .flag
  | .log => d.log.map .text
  | .pdfUrl => d.pdfUrl.map .text
  | .jobId => d.jobId.map .text
  | .detail => d.detail.map .text

theorem flag?_eq_some_iff {v : Value} {b : Bool} : flag? v = some b ↔ v = .bool b := by
  cases v <;> simp [flag?]

theorem text?_eq_some_iff {v : Value} {text : Option String} :
    text? v = some text ↔ (v = .null ∧ text = none) ∨ ∃ t, v = .string (some t) ∧ text = some t := by
  cases v with
  | string written => cases written <;> simp [text?, eq_comm]
  | null => simp [text?, eq_comm]
  | bool | number | array | object => simp [text?]

theorem entry?_success {v : Value} {e : Entry} :
    Field.success.entry? v = some e ↔ ∃ b, v = .bool b ∧ e = .flag b := by
  rw [Field.entry?, Option.map_eq_some_iff]
  simp only [flag?_eq_some_iff, @eq_comm _ e]

theorem entry?_text {field : Field} (h : field ≠ .success) {v : Value} {e : Entry} :
    field.entry? v = some e
      ↔ (v = .null ∧ e = .text none) ∨ ∃ t, v = .string (some t) ∧ e = .text (some t) := by
  have htext : field.entry? v = (text? v).map .text := by
    cases field with
    | success => exact absurd rfl h
    | log | pdfUrl | jobId | detail => rfl
  rw [htext, Option.map_eq_some_iff]
  constructor
  · rintro ⟨text, hread, rfl⟩
    rcases text?_eq_some_iff.1 hread with ⟨rfl, rfl⟩ | ⟨t, rfl, rfl⟩
    · exact .inl ⟨rfl, rfl⟩
    · exact .inr ⟨t, rfl, rfl⟩
  · rintro (⟨rfl, rfl⟩ | ⟨t, rfl, rfl⟩)
    · exact ⟨none, rfl, rfl⟩
    · exact ⟨some t, rfl, rfl⟩

theorem fill_eq_some_iff {α : Type} {place value filled : Option α} :
    fill place value = some filled ↔ place = none ∧ ∃ a, value = some a ∧ filled = some a := by
  cases place <;> cases value <;> simp [fill, eq_comm]

/-- A value that is taken goes to a free place, and all others are left alone. -/
theorem take_settles {d d' : Draft} {v : Value} {given : Field} (h : d.take v given = some d') :
    d.entry given = none ∧ ∃ e, given.entry? v = some e
      ∧ ∀ field, d'.entry field = if field = given then some e else d.entry field := by
  cases given
  all_goals
    obtain ⟨filled, hfill, rfl⟩ := Option.map_eq_some_iff.1 h
    obtain ⟨hfree, a, ha, rfl⟩ := fill_eq_some_iff.1 hfill
    refine ⟨by simp [Draft.entry, hfree], _, by simp only [Field.entry?, ha]; rfl, ?_⟩
    intro field
    cases field <;> rfl

/-- A free place takes every value that its field can hold. -/
theorem take_of_free {d : Draft} {v : Value} {given : Field} {e : Entry}
    (hfree : d.entry given = none) (he : given.entry? v = some e) :
    ∃ d', d.take v given = some d' := by
  cases given
  all_goals
    obtain ⟨a, ha, -⟩ := Option.map_eq_some_iff.1 he
    have hplace := Option.map_eq_none_iff.1 hfree
    simp [Draft.take, fill, hplace, ha]

/-! ## §3. Members one after another. -/

/-- What becomes of a place that is given values: without one it stays, and the
only one is held by a place that was free. -/
inductive Settles (field : Field) : Option Entry → List Value → Option Entry → Prop where
  | idle {place : Option Entry} : Settles field place [] place
  | given {v : Value} {e : Entry} : field.entry? v = some e → Settles field none [v] (some e)

/-- A place that is not free is given nothing. -/
theorem Settles.held {field : Field} {e : Entry} {values : List Value} {after : Option Entry}
    (h : Settles field (some e) values after) : values = [] ∧ after = some e := by
  cases h
  exact ⟨rfl, rfl⟩

theorem takeMembers_unknown_cons {d : Draft} {name : String}
    (h : ∀ field : Field, name ∉ field.names) (v : Value) (rest : Members) :
    d.takeMembers ((some name, v) :: rest) = d.takeMembers rest := by
  apply takeMembers_unknown
  rw [Option.eq_none_iff_forall_ne_some]
  intro field hfield
  exact h field (named?_eq_some_iff.1 hfield)

theorem takeMembers_known_cons {d : Draft} {name : String} {given : Field}
    (h : name ∈ given.names) (v : Value) (rest : Members) :
    d.takeMembers ((some name, v) :: rest) = (d.take v given).bind (·.takeMembers rest) := by
  simp [Draft.takeMembers, named?_eq_some_iff.2 h]

/-- Members that are taken in settle every place. -/
theorem takeMembers_settles {d d' : Draft} {members : Members}
    (h : d.takeMembers members = some d') :
    AllNamed members ∧ ∀ field, Settles field (d.entry field) (field.values members)
      (d'.entry field) := by
  -- on the members, from any draft: the first one changes one place at most
  induction members generalizing d with
  | nil =>
    cases h
    exact ⟨fun _ hm => absurd hm List.not_mem_nil, fun _ => .idle⟩
  | cons m rest ih =>
    obtain ⟨name, v⟩ := m
    cases name with
    | none => cases h
    | some name =>
      by_cases hknown : ∃ given : Field, name ∈ given.names
      · obtain ⟨given, hgiven⟩ := hknown
        rw [takeMembers_known_cons hgiven] at h
        obtain ⟨between, htake, hrest⟩ := Option.bind_eq_some_iff.1 h
        obtain ⟨hfree, e, he, hplaces⟩ := take_settles htake
        obtain ⟨hnamed, hsettles⟩ := ih hrest
        refine ⟨allNamed_cons.2 ⟨rfl, hnamed⟩, fun field => ?_⟩
        have hfield := hsettles field
        rw [hplaces] at hfield
        rw [values_known hgiven]
        by_cases hsame : field = given
        · subst hsame
          rw [if_pos rfl] at hfield ⊢
          obtain ⟨hnone, hafter⟩ := hfield.held
          rw [hfree, hnone, hafter]
          exact .given he
        · rw [if_neg hsame] at hfield ⊢
          exact hfield
      · have hunknown := not_exists.1 hknown
        rw [takeMembers_unknown_cons hunknown] at h
        obtain ⟨hnamed, hsettles⟩ := ih h
        refine ⟨allNamed_cons.2 ⟨rfl, hnamed⟩, fun field => ?_⟩
        rw [values_unknown hunknown]
        exact hsettles field

/-- Members are taken in when every place can be settled. -/
theorem takeMembers_of_settles {d : Draft} {members : Members} (hnamed : AllNamed members)
    (h : ∀ field, ∃ after, Settles field (d.entry field) (field.values members) after) :
    ∃ d', d.takeMembers members = some d' := by
  induction members generalizing d with
  | nil => exact ⟨d, rfl⟩
  | cons m rest ih =>
    obtain ⟨name, v⟩ := m
    obtain ⟨hname, hrest⟩ := allNamed_cons.1 hnamed
    obtain ⟨name, rfl⟩ := Option.isSome_iff_exists.1 hname
    by_cases hknown : ∃ given : Field, name ∈ given.names
    · obtain ⟨given, hgiven⟩ := hknown
      simp only [values_known hgiven] at h
      -- the place of the first member is free, and no other member is for it
      obtain ⟨after, hfirst⟩ := h given
      rw [if_pos rfl] at hfirst
      generalize hplace : d.entry given = place at hfirst
      generalize hothers : given.values rest = others at hfirst
      cases hfirst with
      | given he =>
        obtain ⟨between, htake⟩ := take_of_free hplace he
        obtain ⟨-, e, -, hplaces⟩ := take_settles htake
        rw [takeMembers_known_cons hgiven, htake]
        refine ih hrest fun field => ?_
        rw [hplaces]
        by_cases hsame : field = given
        · rw [hsame, if_pos rfl, hothers]
          exact ⟨_, .idle⟩
        · have hfield := h field
          rw [if_neg hsame] at hfield ⊢
          exact hfield
    · have hunknown := not_exists.1 hknown
      rw [takeMembers_unknown_cons hunknown]
      refine ih hrest fun field => ?_
      have hfield := h field
      rw [values_unknown hunknown] at hfield
      exact hfield

/-! ## §4. Objects. -/

theorem settles_flag {values : List Value} {after : Option Entry}
    (h : Settles .success none values after) :
    after = some (.flag false) ↔ .bool false ∈ values := by
  cases h with
  | idle => simp
  | given he =>
    obtain ⟨b, rfl, rfl⟩ := entry?_success.1 he
    simp [eq_comm]

theorem settles_text {field : Field} (hfield : field ≠ .success) {values : List Value}
    {after : Option Entry} (h : Settles field none values after) (t : String) :
    after = some (.text (some t)) ↔ .string (some t) ∈ values := by
  cases h with
  | idle => simp
  | given he =>
    rcases (entry?_text hfield).1 he with ⟨rfl, rfl⟩ | ⟨other, rfl, rfl⟩
    · simp
    · simp [eq_comm]

/-- An object is a reply when every place can be settled. -/
theorem isReply_iff_settles {members : Members} : IsReply members ↔
    AllNamed members ∧ ∀ field, ∃ after, Settles field none (field.values members) after := by
  constructor
  · intro h
    refine ⟨h.named, fun field => ?_⟩
    have honce := h.once field
    have hflag := h.flag
    have htext := h.text field
    match hvalues : field.values members with
    | [] => exact ⟨none, .idle⟩
    | [v] =>
      by_cases hfield : field = .success
      · subst hfield
        obtain ⟨b, rfl⟩ := hflag v (by simp [hvalues])
        exact ⟨_, .given (entry?_success.2 ⟨b, rfl, rfl⟩)⟩
      · exact match v, htext hfield v (by simp [hvalues]) with
          | _, .inl rfl => ⟨_, .given ((entry?_text hfield).2 (.inl ⟨rfl, rfl⟩))⟩
          | _, .inr ⟨t, rfl⟩ => ⟨_, .given ((entry?_text hfield).2 (.inr ⟨t, rfl, rfl⟩))⟩
    | _ :: _ :: _ => simp [hvalues] at honce
  · rintro ⟨hnamed, h⟩
    refine ⟨hnamed, fun field => ?_, fun v hv => ?_, fun field hfield v hv => ?_⟩
    · obtain ⟨after, hsettles⟩ := h field
      generalize field.values members = values at hsettles
      cases hsettles <;> simp
    · obtain ⟨after, hsettles⟩ := h .success
      generalize Field.success.values members = values at hsettles hv
      cases hsettles with
      | idle => cases hv
      | given he =>
        obtain ⟨b, rfl, -⟩ := entry?_success.1 he
        exact ⟨b, List.mem_singleton.1 hv⟩
    · obtain ⟨after, hsettles⟩ := h field
      generalize field.values members = values at hsettles hv
      cases hsettles with
      | idle => cases hv
      | given he =>
        rw [List.mem_singleton.1 hv]
        rcases (entry?_text hfield).1 he with ⟨rfl, -⟩ | ⟨t, rfl, -⟩
        · exact .inl rfl
        · exact .inr ⟨t, rfl⟩

/-- The flag of a reply is false when that is held in its place. -/
theorem reply_success {d : Draft} :
    d.reply.success = false ↔ d.entry .success = some (.flag false) := by
  obtain ⟨success, -⟩ := d
  cases success <;> simp [Draft.reply, Draft.entry]

/-- A reply has the texts that are held in their places. -/
theorem reply_text {d : Draft} {field : Field} (h : field ≠ .success) (t : String) :
    d.reply.text field = some t ↔ d.entry field = some (.text (some t)) := by
  have hheld : ∀ place : Option (Option String),
      place.getD none = some t ↔ place = some (some t) := by
    intro place
    cases place <;> simp
  cases field with
  | success => exact absurd rfl h
  | log | pdfUrl | jobId | detail =>
    simp [Draft.reply, CompileReply.text, Draft.entry, hheld]

/-- Places that members settle make a reply that says what they say. -/
theorem says_of_settles {d : Draft} {members : Members}
    (h : ∀ field, Settles field none (field.values members) (d.entry field)) :
    Says members d.reply where
  success := reply_success.trans (settles_flag (h .success))
  text _ hfield t := (reply_text hfield t).trans (settles_text hfield (h _) t)

/-- Members say one thing only. -/
theorem Says.unique {members : Members} {reply other : CompileReply} (h : Says members reply)
    (h' : Says members other) : reply = other := by
  have hsuccess : reply.success = other.success :=
    Bool.eq_iff_iff.2 (by simpa using not_congr (h.success.trans h'.success.symm))
  have htext : ∀ field ≠ Field.success, reply.text field = other.text field :=
    fun field hfield => Option.ext fun t => (h.text field hfield t).trans (h'.text field hfield t).symm
  obtain ⟨success, log, pdfUrl, jobId, detail⟩ := reply
  obtain ⟨success', log', pdfUrl', jobId', detail'⟩ := other
  rw [CompileReply.mk.injEq]
  exact ⟨hsuccess, htext .log (by decide), htext .pdfUrl (by decide), htext .jobId (by decide),
    htext .detail (by decide)⟩

/-- Nothing is held before the first member. -/
theorem entry_empty (field : Field) : ({} : Draft).entry field = none := by
  cases field <;> rfl

theorem takeMembers_empty_iff {members : Members} :
    (∃ d, Draft.takeMembers {} members = some d) ↔ IsReply members := by
  rw [isReply_iff_settles]
  constructor
  · rintro ⟨d, htaken⟩
    obtain ⟨hnamed, hsettles⟩ := takeMembers_settles htaken
    exact ⟨hnamed, fun field => ⟨_, entry_empty field ▸ hsettles field⟩⟩
  · rintro ⟨hnamed, hsettles⟩
    exact takeMembers_of_settles hnamed fun field => (entry_empty field).symm ▸ hsettles field

theorem takeMembers_reply {members : Members} {d : Draft}
    (h : Draft.takeMembers {} members = some d) : Says members d.reply :=
  says_of_settles fun field => entry_empty field ▸ (takeMembers_settles h).2 field

/-- **An object is a reply in one case, and says one thing.** -/
theorem replyOf_object_iff {members : Members} {reply : CompileReply} :
    replyOf (.object members) = some reply ↔ IsReply members ∧ Says members reply := by
  show (Draft.takeMembers {} members).map Draft.reply = some reply ↔ _
  rw [Option.map_eq_some_iff]
  constructor
  · rintro ⟨d, htaken, rfl⟩
    exact ⟨takeMembers_empty_iff.1 ⟨d, htaken⟩, takeMembers_reply htaken⟩
  · rintro ⟨hreply, hsaid⟩
    obtain ⟨d, htaken⟩ := takeMembers_empty_iff.2 hreply
    exact ⟨d, htaken, (takeMembers_reply htaken).unique hsaid⟩

theorem replyOf_object_isSome_iff {members : Members} :
    (replyOf (.object members)).isSome = true ↔ IsReply members := by
  show ((Draft.takeMembers {} members).map Draft.reply).isSome = true ↔ _
  rw [Option.isSome_map, Option.isSome_iff_exists, takeMembers_empty_iff]

/-! ## §5. What does not matter. -/

/-- Objects that are replies alike, and give the same texts and flags, are one reply. -/
theorem replyOf_congr {members others : Members} (hreply : IsReply members ↔ IsReply others)
    (hvalues : ∀ field : Field, ∀ v, v ≠ .null →
      (v ∈ field.values members ↔ v ∈ field.values others)) :
    replyOf (.object members) = replyOf (.object others) := by
  have hsaid : ∀ {these those : Members} {reply : CompileReply},
      (∀ field : Field, ∀ v, v ≠ .null → (v ∈ field.values these ↔ v ∈ field.values those)) →
      Says these reply → Says those reply := by
    intro these those reply hsame h
    exact ⟨h.success.trans (hsame _ _ (by simp)),
      fun field hfield t => (h.text field hfield t).trans (hsame _ _ (by simp))⟩
  refine Option.ext fun reply => ?_
  rw [replyOf_object_iff, replyOf_object_iff, hreply]
  exact and_congr_right fun _ =>
    ⟨hsaid hvalues, hsaid fun field v hv => (hvalues field v hv).symm⟩

theorem IsReply.of_perm {members others : Members} (h : IsReply members) (hnamed : AllNamed others)
    (hperm : ∀ field : Field, (field.values members).Perm (field.values others)) :
    IsReply others where
  named := hnamed
  once := fun field => (hperm field).length_eq ▸ h.once field
  flag := fun v hv => h.flag v ((hperm .success).mem_iff.2 hv)
  text := fun field hfield v hv => h.text field hfield v ((hperm field).mem_iff.2 hv)

/-- **Only the values that fields are given matter**, in whatever order. -/
theorem replyOf_of_perm {members others : Members} (hnamed : AllNamed members ↔ AllNamed others)
    (hperm : ∀ field : Field, (field.values members).Perm (field.values others)) :
    replyOf (.object members) = replyOf (.object others) := by
  apply replyOf_congr
  · constructor
    · intro h
      exact h.of_perm (hnamed.1 h.named) hperm
    · intro h
      exact h.of_perm (hnamed.2 h.named) fun field => (hperm field).symm
  · intro field v _
    exact (hperm field).mem_iff

theorem allNamed_perm {members others : Members} (h : members.Perm others) :
    AllNamed members ↔ AllNamed others := by
  simp only [AllNamed, h.mem_iff]

theorem allNamed_without {name : String} {v : Value} {front rest : Members} :
    AllNamed (front ++ (some name, v) :: rest) ↔ AllNamed (front ++ rest) := by
  simp [AllNamed, or_imp, forall_and]

/-- The values of fields with one member more. -/
theorem values_with {name : String} {given : Field} (h : name ∈ given.names) (field : Field)
    (v : Value) (front rest : Members) : field.values (front ++ (some name, v) :: rest)
      = if field = given then field.values front ++ v :: field.values rest
        else field.values (front ++ rest) := by
  rw [values_append, values_known h]
  by_cases hfield : field = given <;> simp [hfield, values_append]

/-- A text that is nothing counts as if its member were not there. -/
theorem replyOf_null {name : String} {given : Field} {front rest : Members}
    (hname : name ∈ given.names) (hgiven : given ≠ .success)
    (hnone : given.values (front ++ rest) = []) :
    replyOf (.object (front ++ (some name, .null) :: rest))
      = replyOf (.object (front ++ rest)) := by
  have hends : given.values front = [] ∧ given.values rest = [] := by
    rwa [values_append, List.append_eq_nil_iff] at hnone
  have hvalues : ∀ field : Field, field.values (front ++ (some name, .null) :: rest)
      = if field = given then [.null] else field.values (front ++ rest) := by
    intro field
    rw [values_with hname]
    by_cases hfield : field = given <;> simp [hfield, hends]
  apply replyOf_congr
  · rw [isReply_iff_settles, isReply_iff_settles, allNamed_without]
    refine and_congr_right fun _ => forall_congr' fun field => ?_
    rw [hvalues]
    by_cases hfield : field = given
    · -- the place is settled in both cases
      rw [hfield, if_pos rfl, hnone]
      exact ⟨fun _ => ⟨_, .idle⟩, fun _ => ⟨_, .given ((entry?_text hgiven).2 (.inl ⟨rfl, rfl⟩))⟩⟩
    · rw [if_neg hfield]
  · intro field v hv
    rw [hvalues]
    by_cases hfield : field = given
    · simp [hfield, hnone, hv]
    · rw [if_neg hfield]

/-! ## §6. Submissions. -/

/-- A submission leads to a response of success with a text. -/
def Answered {σ : Type} (link : Link σ) (settings : Settings) (base : Url)
    (request : CompileRequest) (net : σ) (elapsed : Duration) (text : String) (net' : σ) : Prop :=
  ∃ url response, resolve base settings.renderPath = .ok url
    ∧ send link settings.requestTimeout { method := .post, url, body := some request.wireText } net
      = (.after elapsed (.ok response), net')
    ∧ response.isSuccess = true ∧ response.body.text = .ok text

/-- What a submission brings is what the text says. -/
theorem Answered.submit {σ : Type} {link : Link σ} {settings : Settings} {base : Url}
    {request : CompileRequest} {net net' : σ} {elapsed : Duration} {text : String}
    (h : Answered link settings base request net elapsed text net') :
    (remote link settings base).submit request net
      = (.after elapsed (expected (readReply text)), net') := by
  obtain ⟨url, response, haddress, hsend, hsuccess, htext⟩ := h
  have hread : (do expected (readReply (← readText url response)))
      = expected (readReply text) := by
    simp only [readText, htext]
    rfl
  show withUrl (resolve base settings.renderPath) _ net = _
  rw [haddress, withUrl_ok, exchange_success hsend hsuccess, hread]

/-- How an object is read that may be a reply. -/
structure Tolerated (members : Members) : Prop where
  accepted : (replyOf (.object members)).isSome = true ↔ IsReply members
  said : ∀ reply, replyOf (.object members) = some reply → Says members reply
  /-- The order of members does not matter. -/
  order : ∀ others, members.Perm others → replyOf (.object others) = replyOf (.object members)
  /-- Nor does a member that is for no field. -/
  unknown : ∀ front name v rest, members = front ++ (some name, v) :: rest →
    (∀ field : Field, name ∉ field.names) →
    replyOf (.object (front ++ rest)) = replyOf (.object members)
  /-- Nor does it matter which of its names a field comes under. -/
  spelling : ∀ field : Field, ∀ front name other v rest, name ∈ field.names → other ∈ field.names →
    members = front ++ (some name, v) :: rest →
    replyOf (.object (front ++ (some other, v) :: rest)) = replyOf (.object members)
  /-- Nor whether a text is nothing or left out. -/
  empty : ∀ field ≠ Field.success, ∀ front name rest, name ∈ field.names →
    members = front ++ (some name, .null) :: rest → field.values (front ++ rest) = [] →
    replyOf (.object (front ++ rest)) = replyOf (.object members)
  /-- A submission that is answered with an object brings the reply that it is, or
  fails because of its form. -/
  submitted : ∀ {σ : Type} {link : Link σ} {settings : Settings} {base : Url}
    {request : CompileRequest} {net net' : σ} {elapsed : Duration} {text : String},
    Answered link settings base request net elapsed text net' →
    read text.toList = some (.object members) →
    ∃ result, (remote link settings base).submit request net = (.after elapsed result, net')
      ∧ (∀ reply, result = .ok reply ↔ IsReply members ∧ Says members reply)
      ∧ (¬IsReply members → ∃ f, result = .error f ∧ f.cause = .protocol)

/-- **Objects are tolerated as replies as far as they say one thing.** -/
theorem objects_tolerated (members : Members) : Tolerated members where
  accepted := replyOf_object_isSome_iff
  said := fun reply h => (replyOf_object_iff.1 h).2
  order := by
    intro others h
    exact replyOf_of_perm (allNamed_perm h.symm) fun field => h.symm.filterMap _
  unknown := by
    rintro front name v rest rfl hunknown
    refine replyOf_of_perm allNamed_without.symm fun field => ?_
    rw [values_append, values_append, values_unknown hunknown]
  spelling := by
    rintro field front name other v rest hname hother rfl
    refine replyOf_of_perm (allNamed_without.trans allNamed_without.symm) fun given => ?_
    rw [values_with hname, values_with hother]
  empty := by
    rintro field hfield front name rest hname rfl hnone
    exact (replyOf_null hname hfield hnone).symm
  submitted := by
    intro σ link settings base request net net' elapsed text hanswered hread
    have hreply : readReply text = replyOf (.object members) := by
      simp [readReply, hread]
    refine ⟨_, hanswered.submit, fun reply => ?_, fun hother => ?_⟩
    · rw [hreply, ← replyOf_object_iff]
      cases replyOf (.object members) <;> simp [expected]
    · rw [hreply, Option.not_isSome_iff_eq_none.1 (mt replyOf_object_isSome_iff.1 hother)]
      exact ⟨shapeFailure, rfl, rfl⟩

/-- Where a service is. -/
def depot : Url where
  scheme := "http".toList
  authority := some { host := .name "h".toList }
  route := .segments [[]]

/-- A network that always gives one response. -/
def serving (r : Response) : Link Unit where
  exchange _ _ := (.now (.ok r), ())

/-- A response of success with a text. -/
def saying (text : String) : Response where
  status := 200
  body := { chunks := [text.toUTF8] }

/-- A reply with a member that is for no field, a text that is nothing, and the log
under its other name. -/
def spelledOnce : String :=
  "\x7b\"x\":1,\"logs\":\"a\",\"success\":false,\"detail\":null\x7d"

/-- An object with the log under both of its names. -/
def spelledTwice : String := "\x7b\"log\":null,\"logs\":\"a\"\x7d"

/-- A log is read under its other name, and refused under both at once. -/
theorem spellings_tolerated :
    (remote (serving (saying spelledOnce)) {} depot).submit {} ()
        = (.now (.ok { success := false, log := some "a" }), ())
      ∧ ∃ f, (remote (serving (saying spelledTwice)) {} depot).submit {} () = (.now (.error f), ())
        ∧ f.cause = .protocol := by
  have hanswered : ∀ text, (saying text).body.text = .ok text →
      Answered (serving (saying text)) {} depot {} () .zero text () :=
    fun text htext => ⟨_, _, rfl, rfl, rfl, htext⟩
  have honce : (saying spelledOnce).body.text = .ok spelledOnce :=
    congrArg Except.ok (by decide +kernel)
  have htwice : (saying spelledTwice).body.text = .ok spelledTwice :=
    congrArg Except.ok (by decide +kernel)
  constructor
  · obtain ⟨result, hsubmit, hresult, -⟩ := (objects_tolerated
      [(some "x", .number ['1']), (some "logs", .string (some "a")),
        (some "success", .bool false), (some "detail", .null)]).submitted (hanswered _ honce) rfl
    rw [hsubmit, (hresult { success := false, log := some "a" }).2 (replyOf_object_iff.1 rfl)]
    rfl
  · obtain ⟨result, hsubmit, -, hrefused⟩ := (objects_tolerated
      [(some "log", .null), (some "logs", .string (some "a"))]).submitted (hanswered _ htwice) rfl
    obtain ⟨f, rfl, hcause⟩ := hrefused fun h => absurd (h.once .log) (by decide)
    exact ⟨f, hsubmit, hcause⟩

end RenderDesk.Service
