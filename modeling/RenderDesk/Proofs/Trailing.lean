/-
  RenderDesk.Proofs.Trailing
  ──────────────────────────
  When the stem of an exported file ends in what is trimmed off titles.

  A title is trimmed first and cut to its limit after that.  So the end of a
  stem is trimmed unless the cut came behind an edge character: behind a space,
  a dot or an underscore inside a long title.  Then the stem is not what it would
  be made into itself, as its end would be trimmed off.  In all other cases it
  is: an underscore after the name of a device is trimmed off and added again.

  Main statements:
    * `uncut_finish` — the end of a stem that is not cut there;
    * `fileStem_device`, `fileStem_uncut` — those stems are made into themselves;
    * `CutAtEdge.stem` — what is known of a stem that is cut there;
    * `stem_steady_iff` — the titles whose stem stays trimmed, and stays;
    * `not_every_stem_steady` — there is one whose stem does not.
-/
import RenderDesk.Proofs.Devices

namespace RenderDesk.Artifact

open RenderDesk.Text

/-! ## §1. The ends of a stem. -/

/-- A stem whose ends are trimmed, but for the underscore that frees a name from
its device. -/
structure EndsTrimmed (stem : List Char) : Prop where
  start : ∀ c ∈ stem.head?, c ≠ ' ' ∧ c ≠ '.'
  finish : ∀ c ∈ stem.getLast?, c ≠ ' ' ∧ c ≠ '.'
  underscore : stem.getLast? = some '_' → ∃ device, IsDevice device ∧ stem = device ++ ['_']

/-- A title that has to be cut, and is cut right behind an edge character. -/
def CutAtEdge (title : List Char) : Prop :=
  ∃ clean cut, Cleaned title clean ∧ 80 < encodedSize clean ∧ LongestStart 80 clean cut
    ∧ ∃ c ∈ cut.getLast?, c ∈ edges

theorem not_edge {c : Char} (h : c ∉ edges) : c ≠ '_' ∧ c ≠ ' ' ∧ c ≠ '.' := by
  simpa [edges] using h

theorem Cleaned.finish {title clean : List Char} (h : Cleaned title clean) :
    ∀ c ∈ clean.getLast?, c ∉ edges := by
  obtain ⟨core, htrimmed, rfl⟩ := h
  by_cases hempty : core = []
  · rw [if_pos hempty]
    intro c hc
    obtain rfl : 'd' = c := Option.some.inj hc
    decide
  · rw [if_neg hempty]
    exact htrimmed.finish

/-- A cut leaves at least twenty characters, as none has more than four bytes. -/
theorem LongestStart.length_ge {clean cut : List Char} (h : LongestStart 80 clean cut)
    (hlong : 80 < encodedSize clean) : 20 ≤ cut.length := by
  obtain ⟨rest, hrest⟩ := h.start
  cases rest with
  | nil =>
    rw [List.append_nil] at hrest
    have hfits := h.fits
    rw [hrest] at hfits
    omega
  | cons c rest =>
    by_contra hshort
    -- one character more would fit as well
    have hnext : cut ++ [c] <+: clean := ⟨rest, by rw [← hrest]; simp⟩
    have hsize := encodedSize_le (cut ++ [c])
    rw [List.length_append, List.length_singleton] at hsize
    have hmore := (h.longest _ hnext (by omega)).length_le
    rw [List.length_append, List.length_singleton] at hmore
    omega

section Stems

variable {title : List Char}

theorem cut_proper (title : List Char) : Proper (takeBytes stemLimit (cleanTitle title)) :=
  (takeBytes_longest stemLimit _).proper (by decide) (cleanTitle_cleaned title).proper

/-- **A stem that is not cut behind an edge character** ends in none before it is
freed from the devices. -/
theorem uncut_finish (h : ¬CutAtEdge title) :
    ∀ c ∈ (takeBytes stemLimit (cleanTitle title)).getLast?, c ∉ edges := by
  have hcleaned := cleanTitle_cleaned title
  have hlongest := takeBytes_longest stemLimit (cleanTitle title)
  by_cases hfits : encodedSize (cleanTitle title) ≤ stemLimit
  · rw [hlongest.whole hfits]
    exact hcleaned.finish
  · intro c hc hedge
    exact h ⟨_, _, hcleaned, Nat.lt_of_not_le hfits, hlongest, c, hc, hedge⟩

/-! ## §2. Stems that are made into themselves. -/

/-- The name of a device is freed again in the same way. -/
theorem fileStem_device {device : List Char} (h : IsDevice device) (hproper : Proper device) :
    fileStem (device ++ ['_']) = device ++ ['_'] := by
  have hfinish : ∀ c ∈ device.getLast?, c ∉ edges := by
    intro c hc hedge
    exact h.no_edge hedge (List.mem_of_mem_getLast? hc)
  have htrimmed : Trimmed (tidied (device ++ ['_'])) device := by
    rw [(h.proper hproper).tidied_eq]
    refine ⟨⟨[], ['_'], rfl, ?_⟩, hproper.start, hfinish⟩
    intro c hc
    rw [List.nil_append, List.mem_singleton] at hc
    rw [hc]
    exact List.mem_cons_self
  have hclean : cleanTitle (device ++ ['_']) = device := by
    have hcleaned : Cleaned (device ++ ['_']) device :=
      ⟨device, htrimmed, (if_neg hproper.nonempty).symm⟩
    exact hcleaned.eq.symm
  have hsize : encodedSize device ≤ stemLimit := by
    have hbytes := encodedSize_le device
    have hlength := h.length_le
    show encodedSize device ≤ 80
    omega
  have hcut : takeBytes stemLimit device = device := (takeBytes_longest stemLimit device).whole hsize
  rw [fileStem, hclean, hcut]
  exact if_pos ((isDeviceName_iff device).2 h)

/-- **A stem that is not cut behind an edge character is made into itself.** -/
theorem fileStem_uncut (h : ¬CutAtEdge title) : fileStem (fileStem title) = fileStem title := by
  rcases fileStem_freed title with ⟨hdevice, hstem⟩ | ⟨-, hstem⟩
  · rw [hstem]
    exact fileStem_device hdevice (cut_proper title)
  · have hfinish : ∀ c ∈ (fileStem title).getLast?, c ∉ edges := by
      rw [hstem]
      exact uncut_finish h
    exact (fileStem_stemOf (fileStem title)).kept (fileStem_stemOf title).safe hfinish

theorem endsTrimmed_uncut (h : ¬CutAtEdge title) : EndsTrimmed (fileStem title) where
  start c hc := (not_edge ((fileStem_stemOf title).safe.start c hc)).2
  finish := by
    intro c hc
    rcases fileStem_freed title with ⟨-, hstem⟩ | ⟨-, hstem⟩
    · rw [hstem, List.getLast?_concat] at hc
      obtain rfl : '_' = c := Option.some.inj hc
      decide
    · rw [hstem] at hc
      exact (not_edge (uncut_finish h c hc)).2
  underscore := by
    intro hlast
    rcases fileStem_freed title with ⟨hdevice, hstem⟩ | ⟨-, hstem⟩
    · exact ⟨_, hdevice, hstem⟩
    · rw [hstem] at hlast
      exact absurd rfl (not_edge (uncut_finish h '_' hlast)).1

/-! ## §3. Stems that are not. -/

/-- What is known of the stem of a title that is cut behind an edge character. -/
structure Ragged (stem : List Char) : Prop extends Proper stem where
  long : 20 ≤ stem.length
  ragged : ∃ c ∈ stem.getLast?, c ∈ edges

/-- **A cut behind an edge character is seen in the stem**, which is too long to be
freed from a device. -/
theorem CutAtEdge.stem (h : CutAtEdge title) : Ragged (fileStem title) := by
  obtain ⟨clean, cut, hclean, hsize, hlongest, hedge⟩ := h
  have hlong : 20 ≤ cut.length := hlongest.length_ge hsize
  obtain rfl := hclean.eq
  obtain rfl : cut = takeBytes stemLimit (cleanTitle title) := hlongest.eq
  rcases fileStem_freed title with ⟨hdevice, -⟩ | ⟨-, hstem⟩
  · have hshort := hdevice.length_le
    omega
  · rw [hstem]
    exact ⟨cut_proper title, hlong, hedge⟩

/-- A long stem is not freed from a device. -/
theorem Ragged.not_freed {stem device : List Char} (h : Ragged stem) (hdevice : IsDevice device) :
    stem ≠ device ++ ['_'] := by
  rintro rfl
  have hlong := h.long
  have hshort := hdevice.length_le
  rw [List.length_append, List.length_singleton] at hlong
  omega

theorem Ragged.not_trimmed {stem : List Char} (h : Ragged stem) : ¬EndsTrimmed stem := by
  intro htrimmed
  obtain ⟨c, hc, hedge⟩ := h.ragged
  obtain rfl | hother : c = '_' ∨ c = ' ' ∨ c = '.' := by simpa [edges] using hedge
  · obtain ⟨device, hdevice, hstem⟩ := htrimmed.underscore hc
    exact h.not_freed hdevice hstem
  · have hplain := htrimmed.finish c hc
    rcases hother with rfl | rfl
    · exact hplain.1 rfl
    · exact hplain.2 rfl

/-- The end of such a stem is trimmed off when it is taken for a title. -/
theorem Ragged.not_again {stem : List Char} (h : Ragged stem) : fileStem stem ≠ stem := by
  intro hsame
  have hfreed := fileStem_freed stem
  rw [hsame] at hfreed
  rcases hfreed with ⟨hdevice, hstem⟩ | ⟨-, hstem⟩
  · exact h.not_freed hdevice hstem
  · have hstart : stem <+: cleanTitle stem := by
      conv_lhs => rw [hstem]
      exact takeBytes_start _ _
    have hlength := hstart.length_le
    have hlong := h.long
    obtain ⟨core, htrimmed, hclean⟩ := cleanTitle_cleaned stem
    rw [h.tidied_eq] at htrimmed
    by_cases hempty : core = []
    · -- nothing is left but the name for no title, which is too short
      rw [hclean, if_pos hempty] at hlength
      have hshort : "untitled".toList.length = 8 := by decide
      omega
    · rw [if_neg hempty] at hclean
      obtain ⟨front, back, hparts, -⟩ := htrimmed.parts
      have hcore : core <:+: stem := ⟨front, back, hparts.symm⟩
      have hwhole : stem = core := by
        rw [hclean] at hstart
        exact hstart.eq_of_length_le hcore.length_le
      obtain ⟨c, hc, hedge⟩ := h.ragged
      rw [hwhole] at hc
      exact htrimmed.finish c hc hedge

end Stems

/-! ## §4. File names. -/

theorem fileName_eq (title : Option String) :
    fileName title = String.ofList (fileStem (title.getD "untitled").toList) ++ ".pdf" := by
  cases title <;> rfl

theorem fileName_ofList_iff (stem : List Char) (title : Option String) :
    fileName (some (String.ofList stem)) = fileName title
      ↔ fileStem stem = fileStem (title.getD "untitled").toList := by
  rw [fileName_eq, fileName_eq, ← String.toList_inj]
  simp

/-- **The stem of an exported file stays trimmed, and is made into itself**, unless
the title was cut behind an edge character; it always starts trimmed. -/
theorem stem_steady_iff (title : Option String) :
    ∃ stem : String, fileName title = stem ++ ".pdf"
      ∧ (∀ c ∈ stem.toList.head?, c ∉ edges)
      ∧ (EndsTrimmed stem.toList ↔ ¬CutAtEdge (title.getD "untitled").toList)
      ∧ (fileName (some stem) = fileName title ↔ ¬CutAtEdge (title.getD "untitled").toList) := by
  refine ⟨_, fileName_eq title, ?_, ?_, ?_⟩
  · rw [String.toList_ofList]
    exact (fileStem_stemOf _).safe.start
  · rw [String.toList_ofList]
    exact ⟨fun htrimmed hcut => hcut.stem.not_trimmed htrimmed, endsTrimmed_uncut⟩
  · rw [fileName_ofList_iff]
    exact ⟨fun hagain hcut => hcut.stem.not_again hagain, fileStem_uncut⟩

/-- A long title with a space at the limit gives a stem that ends in it. -/
theorem not_every_stem_steady :
    ¬∀ (title : Option String) (stem : String), fileName title = stem ++ ".pdf" →
      EndsTrimmed stem.toList ∧ fileName (some stem) = fileName title := by
  intro hsteady
  have hstem : fileStem (List.replicate 79 'a' ++ [' ', 'b']) = List.replicate 79 'a' ++ [' '] := by
    decide +kernel
  have hname : fileName (some (String.ofList (List.replicate 79 'a' ++ [' ', 'b'])))
      = String.ofList (List.replicate 79 'a' ++ [' ']) ++ ".pdf" := by
    rw [fileName_eq, Option.getD_some, String.toList_ofList, hstem]
  obtain ⟨htrimmed, -⟩ := hsteady _ _ hname
  have hlast : (String.ofList (List.replicate 79 'a' ++ [' '])).toList.getLast? = some ' ' := by
    rw [String.toList_ofList, List.getLast?_concat]
  exact (htrimmed.finish ' ' hlast).1 rfl

end RenderDesk.Artifact
