/-
  RenderDesk.Proofs.Resolving
  ───────────────────────────
  Where a reference leads that is a path from the root.

  Such a reference keeps the scheme and the authority of its base and nothing
  else of it.  A path whose parts are written in plain characters, none of them
  being dots, is taken as it stands: no part is encoded, cut or left out.

  Main statements:
    * `parse_inParts` — a URL of a known scheme has a path in parts;
    * `parseReference_rooted` — what becomes of a reference from the root;
    * `resolve_plain` — a plain path leads to the parts that it is written of.
-/
import RenderDesk.Proofs.Trimming
import RenderDesk.Url.Parse

namespace RenderDesk.Url

open RenderDesk.Text

/-! ## §1. Paths in parts. -/

/-- A front has a path that references can be relative to. -/
def Front.InParts (front : Front) : Prop := ∃ parts, front.route = .segments parts

theorem readAfterSlashes_ok {k : SchemeKind} {scheme cs : List Char} {last : Bool} {front : Front}
    (h : readAfterSlashes k scheme last cs = .ok front) : front.scheme = scheme ∧ front.InParts := by
  unfold readAfterSlashes at h
  cases hauthority : readAuthority k scheme last cs with
  | error e =>
    rw [hauthority] at h
    cases h
  | ok found =>
    rw [hauthority] at h
    cases h
    exact ⟨rfl, _, rfl⟩

theorem readFileHost_inParts {cs : List Char} {front : Front}
    (h : readFileHost cs = .ok front) : front.InParts := by
  simp only [readFileHost] at h
  -- a drive, no host, a name that stands for this machine, another host
  split at h
  · cases h
    exact ⟨_, rfl⟩
  split at h
  · cases h
    exact ⟨_, rfl⟩
  cases hhost : specialHost (cs.takeWhile (!isAnySlash ·)) with
  | error e =>
    rw [hhost] at h
    cases h
  | ok host =>
    rw [hhost] at h
    simp only [bind, Except.bind] at h
    repeat' split at h
    all_goals
      cases h
      exact ⟨_, rfl⟩

theorem readFile_inParts {cs : List Char} {front : Front}
    (h : readFile none cs = .ok front) : front.InParts := by
  unfold readFile at h
  repeat' split at h
  case isTrue => exact readFileHost_inParts h
  all_goals
    cases h
    exact ⟨_, rfl⟩

theorem readOther_scheme {scheme cs : List Char} {last : Bool} {front : Front}
    (h : readOther scheme last cs = .ok front) : front.scheme = scheme := by
  unfold readOther at h
  split at h
  · exact (readAfterSlashes_ok h).1
  · cases h
    rfl
  · cases h
    rfl

/-- What is read alone has a path in parts, unless its scheme is not known. -/
theorem readWithScheme_inParts {scheme rest : List Char} {last : Bool} {front : Front}
    (h : readWithScheme none scheme last rest = .ok front)
    (hkind : SchemeKind.of front.scheme ≠ .other) : front.InParts := by
  unfold readWithScheme at h
  cases hscheme : SchemeKind.of scheme with
  | file =>
    rw [hscheme] at h
    exact readFile_inParts h
  | other =>
    rw [hscheme] at h
    rw [readOther_scheme h] at hkind
    exact absurd hscheme hkind
  | web =>
    rw [hscheme] at h
    exact (readAfterSlashes_ok h).2

/-- **A URL of a known scheme has a path in parts.** -/
theorem parse_inParts {text : String} {u : Url} (h : parse text = .ok u)
    (hkind : SchemeKind.of u.scheme ≠ .other) : ∃ parts, u.route = .segments parts := by
  unfold parse parseReference at h
  cases hcut : cutScheme (split (cleaned text.toList)).front with
  | none =>
    rw [hcut] at h
    cases h
  | some cut =>
    rw [hcut] at h
    cases hread : readWithScheme none cut.1 (split (cleaned text.toList)).isFrontOnly cut.2 with
    | error e =>
      simp only [hread] at h
      cases h
    | ok front =>
      simp only [hread] at h
      cases h
      exact readWithScheme_inParts hread hkind

/-! ## §2. References from the root. -/

/-- A text that begins with a slash has no scheme. -/
theorem cutScheme_rooted (path : List Char) : cutScheme ('/' :: path) = none := by
  have hletter : '/'.isAlpha = false := by decide
  unfold cutScheme cutAt
  cases hcut : cut (· == ':') path with
  | none => simp [cut, hcut]
  | some ends => simp [cut, hcut, hletter]

/-- **A reference from the root keeps the scheme and the authority of its base**;
all else is its own. -/
theorem parseReference_rooted {base : Url} {r : Reference} {parts : List (List Char)}
    {path : List Char} (hroute : base.route = .segments parts) (hfile : base.scheme ≠ fileScheme)
    (hfront : r.front = '/' :: path) (hpath : ∀ c, path.head? = some c → isAnySlash c = false) :
    parseReference (some base) r = .ok { base with
      route := .segments (readPath (.of base.scheme) [] path)
      query := r.keptQuery (.of base.scheme)
      fragment := r.keptFragment } := by
  have hscheme : cutScheme r.front = none := hfront ▸ cutScheme_rooted path
  have hfragment : isFragmentOnly r = false := by simp [isFragmentOnly, hfront]
  have hslashes : ('/' :: path).takeWhile isAnySlash = ['/'] := by
    cases path with
    | nil => rfl
    | cons c path =>
      have hc := hpath c rfl
      simp [isAnySlash] at hc
      simp [isAnySlash, hc]
  have hkept : keepsPath (some base) r = none := by simp [keepsPath, hfront, cutScheme_rooted]
  have hread : readWithoutScheme (some base) r.isFrontOnly r.front
      = .ok { base.toFront with route := .segments (readPath (.of base.scheme) [] path) } := by
    simp [readWithoutScheme, hroute, hfront, hfile, readRelative, hslashes, toFront]
  -- nothing of the base's own query is kept behind another path
  have hquery : (if r.query.isSome then r.keptQuery (.of base.scheme) else none)
      = r.keptQuery (.of base.scheme) := by
    cases hown : r.query <;> simp [Reference.keptQuery, hown]
  unfold parseReference
  rw [hfragment, hscheme, hread, hkept]
  simp only [bind, Except.bind, pure, Except.pure, Option.bind_none, toFront, hquery]

/-! ## §3. Plain paths. -/

/-- A character that every part of a path may be written with as it is. -/
structure IsPlain (c : Char) : Prop where
  visible : isIgnoredAtEnds c = false
  inPath : inPathSet c = false
  inPart : isAnySlash c = false

instance (c : Char) : Decidable (IsPlain c) :=
  decidable_of_iff (isIgnoredAtEnds c = false ∧ inPathSet c = false ∧ isAnySlash c = false)
    ⟨fun h => ⟨h.1, h.2.1, h.2.2⟩, fun h => ⟨h.visible, h.inPath, h.inPart⟩⟩

theorem isIgnored_of_visible {c : Char} (h : isIgnoredAtEnds c = false) :
    isIgnored c = false := by
  simp only [isIgnored, Bool.or_eq_false_iff, decide_eq_false_iff_not]
  refine ⟨⟨?_, ?_⟩, ?_⟩ <;> rintro rfl <;> cases h

/-- A text of visible characters counts as a whole. -/
theorem cleaned_of_visible {cs : List Char} (h : ∀ c ∈ cs, isIgnoredAtEnds c = false) :
    cleaned cs = cs := by
  have htrim : trimBoth isIgnoredAtEnds cs = cs := trimBoth_of_bare (bare_of_forall h)
  rw [cleaned, htrim, List.filter_eq_self]
  intro c hc
  simp [isIgnored_of_visible (h c hc)]

/-- Where a reference from the root leads, when the base is of the web. -/
theorem resolve_rooted {base : Url} {parts : List (List Char)} {reference : String}
    {r : Reference} {path : List Char} (hroute : base.route = .segments parts)
    (hweb : SchemeKind.of base.scheme = .web) (hparts : split (cleaned reference.toList) = r)
    (hfront : r.front = '/' :: path) (hpath : ∀ c, path.head? = some c → isAnySlash c = false) :
    base.resolve reference = .ok { base with
      route := .segments (readPath .web [] path)
      query := r.keptQuery .web
      fragment := r.keptFragment } := by
  have hfile : base.scheme ≠ fileScheme := by
    intro hfile
    rw [hfile] at hweb
    cases hweb
  rw [resolve, hparts, parseReference_rooted hroute hfile hfront hpath, hweb]

/-- A part that begins with neither a dot nor a percent sign is not made of dots. -/
theorem not_dots {c : Char} (hdot : c ≠ '.') (hpercent : c ≠ '%') (cs : List Char) :
    isTwoDots (c :: cs) = false ∧ isDot (c :: cs) = false := by
  have hfirst : plainDots (c :: cs) = c :: plainDots cs := by
    rw [plainDots] <;> simp [hpercent]
  simp [isTwoDots, isDot, hfirst, hdot]

section Plain

variable {first : List Char} {rest : List (List Char)}

/-- The characters of a path of plain parts are plain, or slashes. -/
theorem plain_of_mem_path (hplain : ∀ part ∈ first :: rest, ∀ c ∈ part, IsPlain c) {c : Char}
    (hc : c ∈ first ++ rest.flatMap ('/' :: ·)) : c = '/' ∨ IsPlain c := by
  rcases List.mem_append.1 hc with hc | hc
  · exact .inr (hplain first List.mem_cons_self c hc)
  · obtain ⟨part, hpart, hmem⟩ := List.mem_flatMap.1 hc
    rcases List.mem_cons.1 hmem with rfl | hmem
    · exact .inl rfl
    · exact .inr (hplain part (List.mem_cons_of_mem _ hpart) c hmem)

/-- Plain parts are read as they are written. -/
theorem rawParts_plain (hplain : ∀ part ∈ first :: rest, ∀ c ∈ part, IsPlain c) :
    rawParts .web (first ++ rest.flatMap ('/' :: ·)) = first :: rest := by
  have hslashes : (first ++ rest.flatMap ('/' :: ·)).map
      (fun c => if isSlash .web c then '/' else c) = first ++ rest.flatMap ('/' :: ·) := by
    refine (List.map_congr_left fun c hc => ?_).trans (List.map_id _)
    rcases plain_of_mem_path hplain hc with rfl | hc
    · rfl
    · have hslash : isSlash .web c = false := by
        simpa [isAnySlash, isSlash, SchemeKind.isSpecial] using hc.inPart
      simp [hslash]
  have hno : ∀ part ∈ first :: rest, '/' ∉ part := by
    intro part hpart hslash
    cases (hplain part hpart _ hslash).inPart
  have hencoded : (first :: rest).map (encode inPathSet) = first :: rest := by
    refine (List.map_congr_left fun part hpart => ?_).trans (List.map_id _)
    exact encode_of_plain fun c hc => (hplain part hpart c hc).inPath
  have hparts : parts '/' (first ++ rest.flatMap ('/' :: ·)) = first :: rest :=
    parts_flatMap (hno first List.mem_cons_self)
      fun part hpart => hno part (List.mem_cons_of_mem _ hpart)
  simp only [rawParts]
  rw [hslashes, hparts, hencoded]

/-- A plain path is a reference without a query and a fragment. -/
theorem split_plain (hplain : ∀ part ∈ first :: rest, ∀ c ∈ part, IsPlain c) :
    split (cleaned ('/' :: (first ++ rest.flatMap ('/' :: ·))))
      = { front := '/' :: (first ++ rest.flatMap ('/' :: ·)) } := by
  have hmem : ∀ c ∈ '/' :: (first ++ rest.flatMap ('/' :: ·)),
      isIgnoredAtEnds c = false ∧ inPathSet c = false := by
    intro c hc
    rcases List.mem_cons.1 hc with rfl | hc
    · exact ⟨rfl, rfl⟩
    · rcases plain_of_mem_path hplain hc with rfl | hc
      · exact ⟨rfl, rfl⟩
      · exact ⟨hc.visible, hc.inPath⟩
  rw [cleaned_of_visible fun c hc => (hmem c hc).1]
  -- both marks would be encoded in a path
  apply split_of_front
  · intro hquestion
    cases (hmem _ hquestion).2
  · intro hhash
    cases (hmem _ hhash).2

/-- **A plain path leads to the parts that it is written of.** -/
theorem resolve_plain {base : Url} {parts : List (List Char)}
    (hroute : base.route = .segments parts) (hweb : SchemeKind.of base.scheme = .web)
    (hfirst : first ≠ []) (hplain : ∀ part ∈ first :: rest, ∀ c ∈ part, IsPlain c)
    (hdots : ∀ part ∈ first :: rest, isTwoDots part = false ∧ isDot part = false) :
    base.resolve (String.ofList (Route.segments (first :: rest)).text)
      = .ok { base with route := .segments (first :: rest), query := none, fragment := none } := by
  have hhead : ∀ c, (first ++ rest.flatMap ('/' :: ·)).head? = some c → isAnySlash c = false := by
    intro c hc
    cases first with
    | nil => exact absurd rfl hfirst
    | cons d ds =>
      obtain rfl : d = c := Option.some.inj hc
      exact (hplain _ List.mem_cons_self _ List.mem_cons_self).inPart
  have hread : readPath .web [] (first ++ rest.flatMap ('/' :: ·)) = first :: rest := by
    have hraw := rawParts_plain hplain
    rw [readPath_plain (hraw ▸ hdots), hraw, List.nil_append]
  have hreference : split (cleaned (String.ofList (Route.segments (first :: rest)).text).toList)
      = { front := '/' :: (first ++ rest.flatMap ('/' :: ·)) } := by
    rw [String.toList_ofList]
    exact split_plain hplain
  rw [resolve_rooted hroute hweb hreference rfl hhead, hread]
  rfl

end Plain

end RenderDesk.Url
