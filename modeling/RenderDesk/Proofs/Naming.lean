/-
  RenderDesk.Proofs.Naming
  ────────────────────────
  The name of an exported file is safe, and close to the title.

  Between a title and its stem stand five steps, and each could undo what
  another has done: trimming could leave nothing, cutting could leave the name
  of a device, and the underscore that frees such a name could make it too
  long or double the underscore before it.  None of this happens, because a
  cut stem keeps the start of the clean title, and a device has a name of at
  most four characters without an underscore.

  The steps are described apart from the functions that take them (`StemOf`);
  that a stem is safe follows from the description alone.

  Main statements:
    * `fileStem_stemOf` — a stem is made as described;
    * `StemOf.safe` — a stem that is made so is safe;
    * `StemOf.kept` — a title that is a safe stem stays as it is, unless
      something is trimmed off its end;
    * `fileName_safe` — the three together, for every title or none.
-/
import Mathlib.Data.List.Destutter
import RenderDesk.Proofs.Exporting
import RenderDesk.Proofs.Trimming

namespace RenderDesk.Artifact

open RenderDesk.Text

/-! ## §1. What a stem has to be. -/

/-- Control characters, and those with a meaning to some file system. -/
def Forbidden (c : Char) : Prop := c.toNat ≤ 0x1F ∨ c ∈ "\\/:*?\"<>|".toList

instance (c : Char) : Decidable (Forbidden c) := inferInstanceAs (Decidable (_ ∨ _))

/-- The characters that are trimmed off both ends of a title. -/
def edges : List Char := ['_', ' ', '.']

/-- Two characters that may follow one another: not both are underscores. -/
def Apart (a b : Char) : Prop := ¬(a = '_' ∧ b = '_')

instance : DecidableRel Apart := fun _ _ => inferInstanceAs (Decidable (¬_))

/-- Whether a device has this name, when the case of ASCII letters is ignored. -/
def IsDevice (cs : List Char) : Prop :=
  ∃ device ∈ deviceNames, cs.map Char.toUpper = device.map Char.toUpper

/-- The length of a text in UTF-8. -/
def encodedSize (cs : List Char) : Nat := (String.ofList cs).utf8ByteSize

/-- What every text that becomes a stem has to be, however long it is and
whoever else has the name. -/
structure Proper (cs : List Char) : Prop where
  nonempty : cs ≠ []
  allowed : ∀ c ∈ cs, ¬Forbidden c
  single : ¬['_', '_'] <:+: cs
  start : ∀ c ∈ cs.head?, c ∉ edges

/-- A stem under which a file can be kept everywhere. -/
structure SafeStem (stem : List Char) : Prop extends Proper stem where
  short : encodedSize stem ≤ 80
  free : ¬IsDevice stem

/-! ## §2. From a title to its stem. -/

/-- The title with underscores for its forbidden characters, and with one
underscore for each run. -/
def tidied (title : List Char) : List Char :=
  (title.map fun c => if Forbidden c then '_' else c).destutter Apart

/-- What is left of a text without the edge characters at its ends. -/
structure Trimmed (cs core : List Char) : Prop where
  parts : ∃ front back, cs = front ++ core ++ back ∧ ∀ c ∈ front ++ back, c ∈ edges
  start : ∀ c ∈ core.head?, c ∉ edges
  finish : ∀ c ∈ core.getLast?, c ∉ edges

/-- The whole title made proper, `untitled` when nothing of it is left. -/
def Cleaned (title clean : List Char) : Prop :=
  ∃ core, Trimmed (tidied title) core ∧ clean = if core = [] then "untitled".toList else core

/-- The longest start of a text, in whole characters, that fits. -/
structure LongestStart (limit : Nat) (cs cut : List Char) : Prop where
  start : cut <+: cs
  fits : encodedSize cut ≤ limit
  longest : ∀ other, other <+: cs → encodedSize other ≤ limit → other <+: cut

/-- An underscore after the name of a device, and after no other. -/
def Freed (cut stem : List Char) : Prop :=
  IsDevice cut ∧ stem = cut ++ ['_'] ∨ ¬IsDevice cut ∧ stem = cut

/-- A stem for a title: the clean title if it fits and otherwise the longest
start of it that does, freed from the devices. -/
def StemOf (title stem : List Char) : Prop :=
  ∃ clean cut, Cleaned title clean ∧ (encodedSize clean ≤ 80 → cut = clean)
    ∧ (80 < encodedSize clean → LongestStart 80 clean cut) ∧ Freed cut stem

/-! ## §3. The steps do what is described. -/

theorem isForbidden_iff (c : Char) : isForbidden c = true ↔ Forbidden c := by
  simp only [isForbidden, Forbidden, Bool.or_eq_true, decide_eq_true_eq, List.contains_iff_mem]
  exact or_congr_left Nat.lt_succ_iff

theorem isEdge_iff (c : Char) : isEdge c = true ↔ c ∈ edges := by
  simp [isEdge, edges, or_assoc]

theorem encodedSize_cons (c : Char) (cs : List Char) :
    encodedSize (c :: cs) = c.utf8Size + encodedSize cs := by
  rw [encodedSize, String.ofList_cons, String.utf8ByteSize_append, String.utf8ByteSize_singleton]
  rfl

theorem byteLength_eq (cs : List Char) : byteLength cs = encodedSize cs := by
  induction cs with
  | nil => rfl
  | cons c cs ih => rw [encodedSize_cons, ← ih, byteLength, List.foldr_cons, byteLength]

theorem encodedSize_le (cs : List Char) : encodedSize cs ≤ 4 * cs.length := by
  induction cs with
  | nil => exact Nat.le_refl 0
  | cons c cs ih =>
    have := c.utf8Size_le_four
    rw [encodedSize_cons, List.length_cons]
    omega

theorem collapse_eq (cs : List Char) : collapse cs = cs.destutter Apart := by
  fun_induction collapse cs with
  | case1 => rfl
  | case2 c => rfl
  | case3 c d cs hrun ih =>
    -- the two are the same character, so it does not matter which one is left
    obtain ⟨rfl, rfl⟩ := hrun
    rw [ih, List.destutter_cons_cons, if_neg (by decide), List.destutter_cons']
  | case4 c d cs hrun ih =>
    have hapart : Apart c d := hrun
    rw [ih, List.destutter_cons_cons, if_pos hapart, List.destutter_cons']

theorem collapse_replaceForbidden (title : List Char) :
    collapse (replaceForbidden title) = tidied title := by
  rw [collapse_eq, tidied, replaceForbidden]
  simp only [isForbidden_iff]

theorem isEdge_eq_false_iff (c : Char) : isEdge c = false ↔ c ∉ edges := by
  rw [← Bool.not_eq_true, isEdge_iff]

theorem all_isEdge_iff {cs : List Char} : cs.all isEdge = true ↔ ∀ c ∈ cs, c ∈ edges := by
  simp only [List.all_eq_true, isEdge_iff]

theorem trimBoth_trimmed (cs : List Char) : Trimmed cs (trimBoth isEdge cs) where
  parts := by
    obtain ⟨front, back, hparts, hfront, hback⟩ := trimBoth_parts isEdge cs
    refine ⟨front, back, hparts, ?_⟩
    rw [← all_isEdge_iff, List.all_append, hfront, hback]
    rfl
  start c hc := (isEdge_eq_false_iff c).1 ((trimBoth_bare isEdge cs).start c hc)
  finish c hc := (isEdge_eq_false_iff c).1 ((trimBoth_bare isEdge cs).finish c hc)

/-- There is one way to trim. -/
theorem Trimmed.eq {cs core : List Char} (h : Trimmed cs core) : trimBoth isEdge cs = core := by
  obtain ⟨⟨front, back, rfl, hedges⟩, hstart, hfinish⟩ := h
  have hboth : front.all isEdge = true ∧ back.all isEdge = true := by
    rw [← Bool.and_eq_true, ← List.all_append, all_isEdge_iff]
    exact hedges
  have hbare : Bare isEdge core := by
    constructor
    · intro c hc
      exact (isEdge_eq_false_iff c).2 (hstart c hc)
    · intro c hc
      exact (isEdge_eq_false_iff c).2 (hfinish c hc)
  exact trimBoth_around hboth.1 hbare hboth.2

theorem cleanTitle_cleaned (title : List Char) : Cleaned title (cleanTitle title) := by
  refine ⟨trimBoth isEdge (tidied title), trimBoth_trimmed _, ?_⟩
  rw [cleanTitle, collapse_replaceForbidden]
  cases trimBoth isEdge (tidied title) with
  | nil => rfl
  | cons c cs => rfl

theorem takeBytes_of_prefix {limit : Nat} {cs other : List Char} (hstart : other <+: cs)
    (hfits : encodedSize other ≤ limit) : other <+: takeBytes limit cs := by
  induction cs generalizing limit other with
  | nil => exact hstart
  | cons c cs ih =>
    cases other with
    | nil => exact List.nil_prefix
    | cons d other =>
      obtain ⟨rfl, hrest⟩ := List.cons_prefix_cons.1 hstart
      rw [encodedSize_cons] at hfits
      rw [takeBytes, if_pos (by omega)]
      exact List.cons_prefix_cons.2 ⟨rfl, ih hrest (by omega)⟩

theorem takeBytes_longest (limit : Nat) (cs : List Char) :
    LongestStart limit cs (takeBytes limit cs) where
  start := takeBytes_start limit cs
  fits := byteLength_eq _ ▸ byteLength_takeBytes limit cs
  longest _ hstart hfits := takeBytes_of_prefix hstart hfits

theorem LongestStart.whole {limit : Nat} {cs cut : List Char} (h : LongestStart limit cs cut)
    (hfits : encodedSize cs ≤ limit) : cut = cs :=
  h.start.eq_of_length_le (h.longest cs List.prefix_rfl hfits).length_le

theorem isDeviceName_iff (cs : List Char) : isDeviceName cs = true ↔ IsDevice cs := by
  have hupper : ∀ device ∈ deviceNames, device.map Char.toUpper = device := by decide
  rw [isDeviceName, List.contains_iff_mem]
  constructor
  · intro hmem
    exact ⟨_, hmem, (hupper _ hmem).symm⟩
  · intro ⟨device, hmem, hsame⟩
    rw [hsame, hupper device hmem]
    exact hmem

theorem fileStem_freed (title : List Char) :
    Freed (takeBytes stemLimit (cleanTitle title)) (fileStem title) := by
  rw [fileStem]
  split
  · next hdevice => exact .inl ⟨(isDeviceName_iff _).1 hdevice, rfl⟩
  · next hfree => exact .inr ⟨fun hdevice => hfree ((isDeviceName_iff _).2 hdevice), rfl⟩

theorem fileStem_stemOf (title : List Char) : StemOf title (fileStem title) := by
  have hlongest := takeBytes_longest stemLimit (cleanTitle title)
  exact ⟨_, _, cleanTitle_cleaned title, hlongest.whole, fun _ => hlongest, fileStem_freed title⟩

/-! ## §4. A stem is safe. -/

theorem isChain_apart_iff (cs : List Char) : cs.IsChain Apart ↔ ¬['_', '_'] <:+: cs := by
  rw [List.isChain_iff_forall_rel_of_append_cons_cons]
  constructor
  · intro hapart ⟨before, after, heq⟩
    exact hapart (by rw [← heq, List.append_assoc]; rfl) ⟨rfl, rfl⟩
  · intro hnone a b before after heq ⟨ha, hb⟩
    subst ha hb
    exact hnone ⟨before, after, by rw [heq, List.append_assoc]; rfl⟩

theorem tidied_allowed {title : List Char} {c : Char} (h : c ∈ tidied title) : ¬Forbidden c := by
  obtain ⟨d, -, rfl⟩ := List.mem_map.1 ((List.destutter_sublist Apart _).mem h)
  split
  · decide
  · assumption

theorem untitled_proper : Proper untitled where
  nonempty := by decide
  allowed c hc hforbidden :=
    ne_true_of_eq_false (untitled_allowed c hc) ((isForbidden_iff c).2 hforbidden)
  single := (isChain_apart_iff untitled).1 (by decide)
  start c hc := by
    obtain rfl : 'u' = c := Option.some.inj hc
    decide

theorem Cleaned.proper {title clean : List Char} (h : Cleaned title clean) : Proper clean := by
  obtain ⟨core, ⟨⟨front, back, hparts, -⟩, hstart, -⟩, rfl⟩ := h
  have hcore : core <:+: tidied title := ⟨front, back, hparts.symm⟩
  by_cases hempty : core = []
  · rw [if_pos hempty]
    exact untitled_proper
  · rw [if_neg hempty]
    refine ⟨hempty, fun c hc => tidied_allowed (hcore.subset hc), fun hrun => ?_, hstart⟩
    exact (isChain_apart_iff _).1 (List.isChain_destutter Apart _) (hrun.trans hcore)

/-- A limit of four bytes leaves a character, and with it the start of the text. -/
theorem LongestStart.proper {limit : Nat} {cs cut : List Char} (h : LongestStart limit cs cut)
    (hlimit : 4 ≤ limit) (hcs : Proper cs) : Proper cut := by
  have hnonempty : cut ≠ [] := by
    intro hempty
    cases cs with
    | nil => exact hcs.nonempty rfl
    | cons c rest =>
      -- the first character alone would be a longer start
      have hfits : encodedSize [c] ≤ limit := (encodedSize_le [c]).trans hlimit
      have hfirst := h.longest [c] (List.cons_prefix_cons.2 ⟨rfl, List.nil_prefix⟩) hfits
      rw [hempty, List.prefix_nil] at hfirst
      cases hfirst
  obtain ⟨rest, hrest⟩ := h.start
  refine ⟨hnonempty, fun c hc => hcs.allowed c (h.start.subset hc),
    fun hrun => hcs.single (hrun.trans h.start.isInfix), fun c hc => hcs.start c ?_⟩
  rw [← hrest]
  exact List.mem_head?_append_of_mem_head? hc

theorem IsDevice.length_le {cs : List Char} (h : IsDevice cs) : cs.length ≤ 4 := by
  have hshort : ∀ device ∈ deviceNames, device.length ≤ 4 := by decide
  obtain ⟨device, hmem, hsame⟩ := h
  have hlength := congrArg List.length hsame
  rw [List.length_map, List.length_map] at hlength
  exact hlength ▸ hshort device hmem

/-- What is trimmed off titles is in no device's name. -/
theorem IsDevice.no_edge {cs : List Char} (h : IsDevice cs) {c : Char} (hc : c ∈ edges) :
    c ∉ cs := by
  have hnone : ∀ device ∈ deviceNames,
      edges.all (fun c => !(device.map Char.toUpper).contains c.toUpper) = true := by decide
  obtain ⟨device, hmem, hsame⟩ := h
  have hclear : c.toUpper ∉ cs.map Char.toUpper := by
    rw [hsame]
    simpa using List.all_eq_true.1 (hnone device hmem) c hc
  intro hedge
  exact hclear (List.mem_map_of_mem hedge)

theorem IsDevice.no_underscore {cs : List Char} (h : IsDevice cs) : '_' ∉ cs :=
  h.no_edge List.mem_cons_self

/-- The underscore after the name of a device stands alone. -/
theorem IsDevice.proper {cut : List Char} (h : IsDevice cut) (hcut : Proper cut) :
    Proper (cut ++ ['_']) where
  nonempty := List.append_ne_nil_of_left_ne_nil hcut.nonempty _
  allowed c hc := by
    rcases List.mem_append.1 hc with hc | hc
    · exact hcut.allowed c hc
    · rw [List.mem_singleton.1 hc]
      decide
  single hrun := by
    -- a run takes two underscores, and there is one
    have hcount := hrun.sublist.count_le '_'
    rw [List.count_append, List.count_eq_zero.2 h.no_underscore] at hcount
    exact absurd hcount (by decide)
  start c hc := by
    rw [List.head?_append_of_ne_nil _ hcut.nonempty] at hc
    exact hcut.start c hc

theorem IsDevice.freed {cut : List Char} (h : IsDevice cut) (hcut : Proper cut) :
    SafeStem (cut ++ ['_']) where
  toProper := h.proper hcut
  short := by
    have hbytes := encodedSize_le (cut ++ ['_'])
    have hlength := h.length_le
    rw [List.length_append, List.length_singleton] at hbytes
    omega
  -- what ends in an underscore is no device's name
  free hdevice := hdevice.no_underscore (List.mem_append_right _ List.mem_cons_self)

/-- **A stem that is made as described is safe.** -/
theorem StemOf.safe {title stem : List Char} (h : StemOf title stem) : SafeStem stem := by
  obtain ⟨clean, cut, hclean, hwhole, hlong, hfreed⟩ := h
  have hcut : Proper cut ∧ encodedSize cut ≤ 80 := by
    by_cases hfits : encodedSize clean ≤ 80
    · rw [hwhole hfits]
      exact ⟨hclean.proper, hfits⟩
    · have hlongest := hlong (Nat.lt_of_not_le hfits)
      exact ⟨hlongest.proper (by decide) hclean.proper, hlongest.fits⟩
  rcases hfreed with ⟨hdevice, rfl⟩ | ⟨hfree, rfl⟩
  · exact hdevice.freed hcut.1
  · exact ⟨hcut.1, hcut.2, hfree⟩

/-! ## §5. A safe stem is kept. -/

theorem Proper.tidied_eq {title : List Char} (h : Proper title) : tidied title = title := by
  have hreplaced : (title.map fun c => if Forbidden c then '_' else c) = title.map id :=
    List.map_congr_left fun c hc => if_neg (h.allowed c hc)
  rw [tidied, hreplaced, List.map_id]
  exact List.destutter_of_isChain Apart title ((isChain_apart_iff title).2 h.single)

theorem Proper.cleaned_eq {title clean : List Char} (h : Proper title)
    (hfinish : ∀ c ∈ title.getLast?, c ∉ edges) (hclean : Cleaned title clean) :
    clean = title := by
  obtain ⟨core, htrimmed, rfl⟩ := hclean
  have hself : Trimmed title title := ⟨⟨[], [], by simp, by simp⟩, h.start, hfinish⟩
  rw [h.tidied_eq] at htrimmed
  have hcore : core = title := htrimmed.eq.symm.trans hself.eq
  rw [hcore, if_neg h.nonempty]

/-- **A title that is a safe stem stays as it is**, unless its end is trimmed. -/
theorem StemOf.kept {title stem : List Char} (h : StemOf title stem) (hsafe : SafeStem title)
    (hfinish : ∀ c ∈ title.getLast?, c ∉ edges) : stem = title := by
  obtain ⟨clean, cut, hclean, hwhole, -, hfreed⟩ := h
  have hself : clean = title := hsafe.toProper.cleaned_eq hfinish hclean
  subst hself
  have hcut : cut = clean := hwhole hsafe.short
  subst hcut
  rcases hfreed with ⟨hdevice, -⟩ | ⟨-, hstem⟩
  · exact absurd hdevice hsafe.free
  · exact hstem

/-! ## §6. File names. -/

/-- **The name of an exported file is a safe stem and the ending.**  The stem
comes from the title as described, or from `untitled` when there is no title,
and a title that is a safe stem already is kept. -/
theorem fileName_safe (title : Option String) :
    ∃ stem : String, fileName title = stem ++ ".pdf"
      ∧ SafeStem stem.toList
      ∧ StemOf (title.getD "untitled").toList stem.toList
      ∧ ∀ text, title = some text → SafeStem text.toList →
          (∀ c ∈ text.toList.getLast?, c ∉ edges) → stem = text := by
  have hstem := fileStem_stemOf (title.getD "untitled").toList
  refine ⟨String.ofList (fileStem (title.getD "untitled").toList), ?_, ?_, ?_, ?_⟩
  · cases title <;> rfl
  · rw [String.toList_ofList]
    exact hstem.safe
  · rw [String.toList_ofList]
    exact hstem
  · intro text htitle hsafe hfinish
    subst htitle
    exact (congrArg String.ofList (hstem.kept hsafe hfinish)).trans String.ofList_toList

example : fileName (some "Eigen: values/vectors?") = "Eigen_ values_vectors.pdf" := by decide

example : fileName (some "con") = "con_.pdf" := by decide

end RenderDesk.Artifact
