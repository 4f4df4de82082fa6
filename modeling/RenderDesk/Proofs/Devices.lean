/-
  RenderDesk.Proofs.Devices
  ─────────────────────────
  When the name of an exported file is taken for a device.

  A file system with device names goes by the base of a name: what stands in
  front of its first dot, without the spaces behind it.  A stem is freed from
  the devices when all of it names one, and not when its base does.  So the
  names that are taken for a device are those of titles with a device's name in
  front, and behind it spaces and then a dot or the end.  As a title is trimmed,
  spaces at the end can only come from cutting it to its limit.

  Main statements:
    * `baseOf_stem` — the ending of a file name is not in its base;
    * `Freed.base_iff` — which stems have the base of a device;
    * `base_free_iff` — which titles give a name that is no device's;
    * `not_every_base_free` — there is one that does not.
-/
import RenderDesk.Proofs.Naming
import RenderDesk.Proofs.Stamping

namespace RenderDesk.Artifact

open RenderDesk.Text
open RenderDesk.Url (optionalPart)

/-! ## §1. The base of a name. -/

/-- What stands in front of the first dot of a name, without spaces behind it. -/
def baseOf (name : List Char) : List Char :=
  dropEndWhile (· = ' ') (name.takeWhile (· ≠ '.'))

/-- The name of a device with something behind it that is not in the base. -/
def Masked (cut : List Char) : Prop :=
  ∃ device spaces extension, IsDevice device ∧ (∀ c ∈ spaces, c = ' ')
    ∧ cut = device ++ spaces ++ optionalPart '.' extension ∧ cut ≠ device

/-- The ending of a file name stands behind a dot. -/
theorem baseOf_stem (stem ending : List Char) : baseOf (stem ++ '.' :: ending) = baseOf stem := by
  have hplain : '.' ∉ stem.takeWhile (· ≠ '.') := takeWhile_front '.' stem
  have hparts := front_behind '.' stem
  obtain ⟨extension, hextension⟩ : ∃ extension, stem ++ '.' :: ending
      = stem.takeWhile (· ≠ '.') ++ optionalPart '.' (some extension) := by
    cases hbehind : behind '.' stem with
    | none =>
      rw [takeWhile_of_behind hbehind]
      exact ⟨ending, rfl⟩
    | some rest =>
      rw [hbehind] at hparts
      refine ⟨rest ++ '.' :: ending, ?_⟩
      conv_lhs => rw [← hparts]
      simp [optionalPart]
  rw [baseOf, hextension, takeWhile_joined hplain, baseOf]

theorem baseOf_parts (name : List Char) : ∃ spaces extension, (∀ c ∈ spaces, c = ' ')
    ∧ name = baseOf name ++ spaces ++ optionalPart '.' extension := by
  obtain ⟨spaces, hspaces, hall⟩ := dropEndWhile_parts (· = ' ') (name.takeWhile (· ≠ '.'))
  refine ⟨spaces, behind '.' name, ?_, ?_⟩
  · intro c hc
    simpa using List.all_eq_true.1 hall c hc
  · show name = dropEndWhile (· = ' ') (name.takeWhile (· ≠ '.')) ++ spaces ++ _
    rw [← hspaces, front_behind]

theorem baseOf_joined {base spaces : List Char} (hdot : '.' ∉ base)
    (hlast : ∀ c ∈ base.getLast?, c ≠ ' ') (hspaces : ∀ c ∈ spaces, c = ' ')
    (extension : Option (List Char)) :
    baseOf (base ++ spaces ++ optionalPart '.' extension) = base := by
  have hfront : '.' ∉ base ++ spaces := by
    rw [List.mem_append, not_or]
    refine ⟨hdot, ?_⟩
    intro hmem
    exact absurd (hspaces _ hmem) (by decide)
  have hall : spaces.all (· = ' ') = true := by simpa using hspaces
  have hfinish : ∀ c ∈ base.getLast?, decide (c = ' ') = false := by
    intro c hc
    exact decide_eq_false (hlast c hc)
  rw [baseOf, takeWhile_joined hfront, dropEndWhile_append_of_all hall,
    dropEndWhile_of_finish hfinish]

theorem baseOf_self {base : List Char} (hdot : '.' ∉ base) (hlast : ∀ c ∈ base.getLast?, c ≠ ' ') :
    baseOf base = base := by
  have hjoined : baseOf (base ++ [] ++ optionalPart '.' none) = base :=
    baseOf_joined hdot hlast (by simp) none
  simpa [optionalPart] using hjoined

/-! ## §2. Devices. -/

theorem IsDevice.unspaced {device : List Char} (h : IsDevice device) :
    ∀ c ∈ device.getLast?, c ≠ ' ' := by
  rintro c hc rfl
  exact h.no_edge (by decide) (List.mem_of_mem_getLast? hc)

/-- With something behind it, the name of a device is none. -/
theorem Masked.not_device {cut : List Char} (h : Masked cut) : ¬IsDevice cut := by
  obtain ⟨device, spaces, extension, hdevice, hspaces, hcut, hmore⟩ := h
  intro hwhole
  apply hmore
  calc cut = baseOf cut := (baseOf_self (hwhole.no_edge (by decide)) hwhole.unspaced).symm
    _ = device := by
        rw [hcut, baseOf_joined (hdevice.no_edge (by decide)) hdevice.unspaced hspaces]

/-- **The stems with the base of a device.** -/
theorem Freed.base_iff {cut stem : List Char} (h : Freed cut stem) :
    IsDevice (baseOf stem) ↔ Masked cut := by
  rcases h with ⟨hdevice, rfl⟩ | ⟨hfree, rfl⟩
  · -- the underscore stays in the base, and a device has none
    have hdot : '.' ∉ cut ++ ['_'] := by
      have hcut := hdevice.no_edge (c := '.') (by decide)
      simp [hcut]
    have hbase : baseOf (cut ++ ['_']) = cut ++ ['_'] := by
      apply baseOf_self hdot
      rintro c hc rfl
      simp at hc
    apply iff_of_false
    · intro hbroken
      rw [hbase] at hbroken
      exact hbroken.no_underscore (List.mem_append_right _ List.mem_cons_self)
    · intro hmasked
      exact hmasked.not_device hdevice
  · constructor
    · intro hbase
      obtain ⟨spaces, extension, hspaces, hparts⟩ := baseOf_parts stem
      refine ⟨baseOf stem, spaces, extension, hbase, hspaces, hparts, ?_⟩
      intro hwhole
      exact hfree (hwhole ▸ hbase)
    · rintro ⟨device, spaces, extension, hdevice, hspaces, rfl, -⟩
      rw [baseOf_joined (hdevice.no_edge (by decide)) hdevice.unspaced hspaces]
      exact hdevice

/-! ## §3. File names. -/

/-- There is one way to clean a title. -/
theorem Cleaned.eq {title clean : List Char} (h : Cleaned title clean) :
    clean = cleanTitle title := by
  obtain ⟨core, htrimmed, rfl⟩ := h
  obtain ⟨other, hother, hclean⟩ := cleanTitle_cleaned title
  rw [hclean, ← htrimmed.eq, hother.eq]

/-- There is one longest start. -/
theorem LongestStart.eq {limit : Nat} {cs cut : List Char} (h : LongestStart limit cs cut) :
    cut = takeBytes limit cs := by
  have hlongest := takeBytes_longest limit cs
  have hshorter : cut <+: takeBytes limit cs := takeBytes_of_prefix h.start h.fits
  have hlonger : takeBytes limit cs <+: cut := h.longest _ hlongest.start hlongest.fits
  exact hshorter.eq_of_length_le hlonger.length_le

/-- **The name of an exported file is no device's**, unless a device's name
stands in front of the cut title, and nothing of the base behind it. -/
theorem base_free_iff (title : Option String) : ¬IsDevice (baseOf (fileName title).toList)
    ↔ ∀ clean cut, Cleaned (title.getD "untitled").toList clean → LongestStart 80 clean cut →
        ¬Masked cut := by
  have hname : (fileName title).toList
      = fileStem (title.getD "untitled").toList ++ '.' :: "pdf".toList := by
    rw [fileName, String.toList_append, String.toList_ofList]
    cases title <;> rfl
  have hbase : IsDevice (baseOf (fileName title).toList)
      ↔ Masked (takeBytes stemLimit (cleanTitle (title.getD "untitled").toList)) := by
    rw [hname, baseOf_stem]
    exact (fileStem_freed _).base_iff
  rw [hbase]
  constructor
  · intro hfree clean cut hclean hcut
    rw [hcut.eq, hclean.eq]
    exact hfree
  · intro hfree
    exact hfree _ _ (cleanTitle_cleaned _) (takeBytes_longest _ _)

/-- A device's name with an extension is left as it is. -/
theorem not_every_base_free :
    ¬∀ title : Option String, ¬IsDevice (baseOf (fileName title).toList) := by
  intro hfree
  have hname : baseOf (fileName (some "NUL.tar.gz")).toList = "NUL".toList := by
    decide +kernel
  have hdevice : IsDevice "NUL".toList := ⟨"NUL".toList, by decide, rfl⟩
  exact hfree _ (hname ▸ hdevice)

end RenderDesk.Artifact
