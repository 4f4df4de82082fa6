/-
  RenderDesk.Proofs.Addressing
  ────────────────────────────
  A stamp does not lead elsewhere.

  A preview is fetched from where its reference leads, and the reference has got
  a stamp before.  When it is a path from the root in printable characters, the
  stamp is read as the end of the query: it is not encoded, it is not cut off,
  and whatever the path is made of is read as it was before.

  Main statements:
    * `split_toList` — a reference is cut into its three parts;
    * `resolve_fromRoot` — where a path from the root leads;
    * `stamped_leads` — the stamped one leads to the same place, with a stamp in
      its query.
-/
import RenderDesk.Proofs.Fetching
import RenderDesk.Proofs.Stamping

namespace RenderDesk.Url

open RenderDesk.Artifact
open RenderDesk.Text

/-! ## §1. The parts of a reference. -/

theorem splitQuery_eq (cs : List Char) :
    splitQuery cs = (cs.takeWhile (· ≠ '?'), behind '?' cs) := by
  rw [splitQuery, cutAt_eq]
  cases hbehind : behind '?' cs with
  | none =>
    rw [takeWhile_of_behind hbehind]
    rfl
  | some query => rfl

/-- **A reference is cut into its path, its query and its fragment.** -/
theorem split_toList (reference : String) : split reference.toList
    = { front := pathOf reference, query := queryOf reference, fragment := fragmentOf reference } := by
  rw [split, cutAt_eq, pathOf, queryOf, withoutFragment, fragmentOf]
  cases hbehind : behind '#' reference.toList with
  | none =>
    rw [takeWhile_of_behind hbehind, Option.map_none]
    simp only [splitQuery_eq]
  | some fragment =>
    rw [Option.map_some]
    simp only [splitQuery_eq]

/-! ## §2. Paths from the root. -/

/-- A path from the root, and perhaps a query and a fragment, in printable ASCII
without spaces.  It is not one of the references with two slashes, which name
another host. -/
structure FromRoot (reference : String) : Prop where
  visible : ∀ c ∈ reference.toList, 0x21 ≤ c.toNat ∧ c.toNat ≤ 0x7E
  rooted : ∃ path, reference.toList = '/' :: path ∧ path.head? ≠ some '/' ∧ path.head? ≠ some '\\'

/-- The path of such a reference has one slash in front. -/
theorem FromRoot.pathOf_eq {reference : String} (h : FromRoot reference) :
    ∃ path, pathOf reference = '/' :: path ∧ ∀ c, path.head? = some c → isAnySlash c = false := by
  obtain ⟨whole, hlist, hslash, hback⟩ := h.rooted
  obtain ⟨path, hpath⟩ : ∃ path, pathOf reference = '/' :: path := by
    simp [pathOf, withoutFragment, hlist]
  refine ⟨path, hpath, fun c hc => ?_⟩
  -- what the path goes on with is what the reference goes on with
  have hparts := toList_parts reference
  rw [hlist, hpath, List.cons_append, List.cons_append, List.cons.injEq] at hparts
  have hhead : whole.head? = some c := by
    rw [hparts.2, List.append_assoc, List.head?_append, hc]
    rfl
  rw [hhead, Ne, Option.some.injEq] at hslash hback
  simp [isAnySlash, hslash, hback]

theorem FromRoot.ends {reference : String} (h : FromRoot reference) :
    ∀ c ∈ reference.toList, isIgnoredAtEnds c = false := by
  intro c hc
  have hprintable := (h.visible c hc).1
  simp only [isIgnoredAtEnds, decide_eq_false_iff_not]
  omega

/-- **Where a path from the root leads**: its parts are read by themselves, and
scheme and authority are those of the base. -/
theorem resolve_fromRoot {base : Url} {parts : List (List Char)} {reference : String}
    {path : List Char} (hroute : base.route = .segments parts)
    (hweb : SchemeKind.of base.scheme = .web)
    (hends : ∀ c ∈ reference.toList, isIgnoredAtEnds c = false)
    (hpath : pathOf reference = '/' :: path)
    (hhead : ∀ c, path.head? = some c → isAnySlash c = false) :
    base.resolve reference = .ok { base with
      route := .segments (readPath .web [] path)
      query := (queryOf reference).map (encode (inQuerySet true))
      fragment := (fragmentOf reference).map (encode inFragmentSet) } := by
  have hparts := split_toList reference
  rw [← cleaned_of_visible hends] at hparts
  exact resolve_rooted hroute hweb hparts hpath hhead

/-! ## §3. Stamps in references. -/

theorem digit_visible {n : Nat} {c : Char} (h : c ∈ Nat.toDigits 10 n) :
    isIgnoredAtEnds c = false ∧ inQuerySet true c = false := by
  have htable : ∀ m < 128, (Char.ofNat m).isDigit = true →
      isIgnoredAtEnds (Char.ofNat m) = false ∧ inQuerySet true (Char.ofNat m) = false := by
    decide +kernel
  have hdigit := Nat.isDigit_of_mem_toDigits (by decide) (by decide) h
  have hascii : c.toNat < 128 := by
    have hnine : c.toNat ≤ '9'.toNat := by
      simp only [Char.isDigit, Bool.and_eq_true, decide_eq_true_eq] at hdigit
      exact hdigit.2
    exact Nat.lt_of_le_of_lt hnine (by decide)
  have hc := htable c.toNat hascii
  rw [Char.ofNat_toNat] at hc
  exact hc hdigit

/-- A stamp is written in visible characters. -/
theorem stamped_ends {reference : String} (h : ∀ c ∈ reference.toList, isIgnoredAtEnds c = false)
    (stamp : UInt64) : ∀ c ∈ (stamped reference stamp).toList, isIgnoredAtEnds c = false := by
  intro c hc
  have hjoiner : isIgnoredAtEnds (joiner (withoutFragment reference)) = false := by
    unfold joiner
    split <;> decide
  rw [toList_stamped, marked] at hc
  rw [← toList_front] at h
  simp only [List.mem_append, List.mem_cons] at h hc
  rcases hc with (hc | rfl | rfl | rfl | hc) | hc
  · exact h c (.inl hc)
  · exact hjoiner
  · decide
  · decide
  · exact (digit_visible hc).1
  · exact h c (.inr hc)

/-- A stamp is not encoded, and stands behind what is. -/
theorem encode_stampedQuery (query : Option (List Char)) (stamp : UInt64) :
    encode (inQuerySet true) (stampedQuery query stamp)
      = stampedQuery (query.map (encode (inQuerySet true))) stamp := by
  have hplain : encode (inQuerySet true) (Nat.toDigits 10 stamp.toNat)
      = Nat.toDigits 10 stamp.toNat := encode_of_plain fun c hc => (digit_visible hc).2
  cases query with
  | none =>
    rw [stampedQuery, encode_append, hplain]
    rfl
  | some query =>
    rw [stampedQuery, encode_append, encode_append, hplain]
    rfl

/-- A stamp changes the query only. -/
theorem resolve_stamped {base : Url} {parts : List (List Char)} {reference : String}
    (hroute : base.route = .segments parts) (hweb : SchemeKind.of base.scheme = .web)
    (h : FromRoot reference) (stamp : UInt64) : ∃ url, base.resolve reference = .ok url
      ∧ url.query.isSome = (queryOf reference).isSome
      ∧ base.resolve (stamped reference stamp)
        = .ok { url with query := some (stampedQuery url.query stamp) } := by
  obtain ⟨path, hpath, hhead⟩ := h.pathOf_eq
  refine ⟨_, resolve_fromRoot hroute hweb h.ends hpath hhead, Option.isSome_map, ?_⟩
  rw [resolve_fromRoot hroute hweb (stamped_ends h.ends stamp)
    ((pathOf_stamped reference stamp).trans hpath) hhead, queryOf_stamped, fragmentOf_stamped,
    Option.map_some, encode_stampedQuery]

end RenderDesk.Url

namespace RenderDesk.Service

open RenderDesk.Artifact
open RenderDesk.Http
open RenderDesk.Url (FromRoot)

/-! ## §4. Previews. -/

/-- **A stamp does not lead elsewhere.**  On every service of the web, a path from
the root leads somewhere, and with a stamp it leads to the same place with the
stamp in its query. -/
theorem stamped_leads {settings : Settings} {base : Url} {reference : String}
    (hopen : openBase settings = .ok base) (hweb : isWeb base = true) (h : FromRoot reference)
    (stamp : UInt64) : ∃ url, resolve base reference = .ok url
      ∧ url.query.isSome = (queryOf reference).isSome
      ∧ resolve base (stamped reference stamp)
        = .ok { url with query := some (stampedQuery url.query stamp) } := by
  obtain ⟨parts, hroute⟩ := openBase_inParts hopen hweb
  obtain ⟨url, hurl, hquery, hstamped⟩ := Url.resolve_stamped hroute (kind_of_web hweb) h stamp
  exact ⟨url, congrArg (Except.mapError urlFailure) hurl, hquery,
    congrArg (Except.mapError urlFailure) hstamped⟩

/-- A reference whose path goes up, whose query is encoded, and whose fragment looks
like a stamp. -/
def windingReference : String := "/b/../a?x='#p?t=1"

theorem windingReference_fromRoot : FromRoot windingReference where
  visible c hc := by
    have hall : windingReference.toList.all
        (fun c => 0x21 ≤ c.toNat && c.toNat ≤ 0x7E) = true := by decide
    simpa using List.all_eq_true.1 hall c hc
  rooted := ⟨"b/../a?x='#p?t=1".toList, by decide, by decide, by decide⟩

/-- Where the usual service is. -/
def usualBase : Url where
  scheme := "http".toList
  authority := some { host := .v4 0x7F000001, port := some 8000 }
  route := .segments [[]]

/-- With a stamp it leads to the same place. -/
theorem winding_leads : openBase {} = .ok usualBase ∧ isWeb usualBase = true
    ∧ FromRoot windingReference
    ∧ ∃ url, resolve usualBase windingReference = .ok url
      ∧ url.route = .segments ["a".toList] ∧ url.query = some "x=%27".toList
      ∧ resolve usualBase (stamped windingReference 7)
        = .ok { url with query := some "x=%27&t=7".toList } := by
  have hopen : openBase {} = .ok usualBase := by rfl
  have hweb : isWeb usualBase = true := by decide
  obtain ⟨url, hurl, -, hstamped⟩ := stamped_leads hopen hweb windingReference_fromRoot 7
  have hplace : resolve usualBase windingReference = .ok { usualBase with
      route := .segments ["a".toList]
      query := some "x=%27".toList
      fragment := some "p?t=1".toList } := by rfl
  cases hurl.symm.trans hplace
  exact ⟨hopen, hweb, windingReference_fromRoot, _, hplace, rfl, rfl, hstamped⟩

end RenderDesk.Service
