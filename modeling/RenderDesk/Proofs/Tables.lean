/-
  RenderDesk.Proofs.Tables
  ────────────────────────
  A store of files is a table of texts.

  The table has the texts of the directory's files under their names.  A get
  reads it, and a put replaces one text, whether or not the directory is there
  when the put begins.

  Main statements:
    * `get_table` — a get gives what the table has;
    * `put_table` — a put changes the table at its key, or not at all;
    * `store_is_table` — so every sequence of requests is answered by a table;
    * `new_store_is_table` — also where the directory is yet to be made.
-/
import Mathlib.Tactic.ByContra
import RenderDesk.Proofs.Entries

namespace RenderDesk.Storage

open RenderDesk.Files

/-! ## §1. Requests and tables. -/

/-- What is asked of a store.  With a put come the names that are tried for its
new file. -/
inductive Request where
  | get (key : String)
  | put (key value : String) (names : Nat → String)

inductive Answer where
  | got (result : Except StorageError (Option String))
  | done (result : Except StorageError Unit)

namespace Request

def key : Request → String
  | .get key => key
  | .put key _ _ => key

/-- The answer of the store that keeps its files in a directory, and the tree
after it. -/
def perform (dir : Path) (t : Tree) : Request → Answer × Tree
  | .get key => (.got ((fileStore { dir := dir }).get key t), t)
  | .put key value names =>
    let outcome := (fileStore { dir := dir, names := names }).put key value t
    (.done outcome.1, outcome.2)

theorem perform_put (dir : Path) (t : Tree) (key value : String) (names : Nat → String) :
    (put key value names).perform dir t
      = (.done ((fileStore { dir := dir, names := names }).put key value t).1,
          ((fileStore { dir := dir, names := names }).put key value t).2) := rfl

/-- The answer to a key that is refused. -/
def refusal : Request → Answer
  | .get key => .got (.error (.invalidKey key))
  | .put key _ _ => .done (.error (.invalidKey key))

/-- The tree after some requests. -/
def performAll (dir : Path) (t : Tree) (requests : List Request) : Tree :=
  requests.foldl (fun t r => (r.perform dir t).2) t

end Request

/-- Texts under their keys. -/
abbrev Table := String → Option String

namespace Table

/-- What a table answers. -/
def answer (m : Table) : Request → Answer
  | .get key => .got (.ok (m key))
  | .put _ _ _ => .done (.ok ())

/-- The table with another text under a key. -/
def set (m : Table) (key value : String) : Table :=
  fun other => if other = key then some value else m other

/-- The table after a request; only what the directory accepts is put there. -/
def after (dir : Path) (m : Table) : Request → Table
  | .get _ => m
  | .put key value _ => if accepts dir key then m.set key value else m

/-- A request changes no text but that of its key. -/
theorem after_other {dir : Path} {r : Request} {other : String} (h : other ≠ r.key) (m : Table) :
    m.after dir r other = m other := by
  cases r with
  | get key => rfl
  | put key value names =>
    have hother : other ≠ key := h
    simp only [after]
    split
    · exact if_neg hother
    · rfl

def afterAll (dir : Path) (m : Table) (requests : List Request) : Table :=
  requests.foldl (after dir) m

end Table

/-- The names of the new files are such as the directory accepts, and one of
them is not used. -/
def Request.Spare (dir : Path) (m : Table) : Request → Prop
  | .get _ => True
  | .put _ _ names =>
    (∀ n < nameAttempts, ¬PathLike (names n) ∧ fits dir (names n) = true)
      ∧ ∃ n < nameAttempts, m (names n) = none

/-! ## §2. Directories with a table. -/

/-- A directory is there, and holds the texts of a table and nothing else. -/
structure Holding (dir : Path) (t : Tree) (m : Table) : Prop where
  texts : ∃ place, Located t dir place
    ∧ ∀ name, t.find? (place ++ [name]) = (m name).map fun text => .file (Text.Utf8.encode text)

/-- A directory has a table: it holds the texts, or it is not there, can be
made, and is empty once it has been made. -/
inductive HasTable (dir : Path) (t : Tree) : Table → Prop where
  | present {m : Table} : Holding dir t m → HasTable dir t m
  | absent {t₁ : Tree} : t.contains dir = false → ensureDirectory dir t = (.ok (), t₁) →
      Holding dir t₁ (fun _ => none) → HasTable dir t (fun _ => none)

/-- What a request to the store in a directory does, if the store is a table. -/
structure Serves (dir : Path) (t : Tree) (m : Table) (r : Request) : Prop where
  /-- A key like a path is refused, and nothing is changed. -/
  refused : PathLike r.key → r.perform dir t = (r.refusal, t)
  /-- Any other key that is short enough has the table's answer. -/
  served : ¬PathLike r.key → fits dir r.key = true → (r.perform dir t).1 = m.answer r
  /-- What a get gives for another key is as it was. -/
  apart : ∀ other, other ≠ r.key → ¬PathLike other → fits dir other = true →
    ((Request.get other).perform dir (r.perform dir t).2).1
      = ((Request.get other).perform dir t).1
  /-- What is changed is in the directory; beyond that, directories are made on
  the way to it. -/
  confined : ∀ l, (r.perform dir t).2.find? l ≠ t.find? l →
    (∃ place, (r.perform dir t).2.Leads dir place ∧ l = place ++ [r.key])
      ∨ t.find? l = none ∧ (r.perform dir t).2.find? l = some .directory
        ∧ (r.perform dir t).2.OnWay dir l
  /-- The new file of a put is in the directory too. -/
  temporary : ∀ key value names, r = .put key value names →
    ∀ t₁ place t₂, ensureDirectory dir t = (.ok (), t₁) →
      Writer.createTemporary { dir := dir, names := names } t₁ nameAttempts = .ok (place, t₂) →
      ∃ parent name, place = parent ++ [name] ∧ t₁.Leads dir parent

section Holding

variable {dir : Path} {t t' : Tree} {m : Table} {key value : String}

/-- Where nothing is kept differently, the texts are the same. -/
theorem Holding.congr (h : Holding dir t m) (hw : t'.working = t.working)
    (hf : ∀ l, t'.find? l = t.find? l) : Holding dir t' m := by
  obtain ⟨place, hlocated, htexts⟩ := h.texts
  have hdirs : Tree.Directories t t' := ⟨hw, fun l hl => (hf l).trans hl⟩
  exact ⟨place, hlocated.of_directories hdirs, fun name => (hf _).trans (htexts name)⟩

/-- A file that is replaced changes one text. -/
theorem Holding.swapped (h : Holding dir t m) (hkey : accepts dir key = true)
    (hs : Tree.Swapped dir key (Text.Utf8.encode value) t t') : Holding dir t' (m.set key value) := by
  obtain ⟨place, hlocated, htexts⟩ := h.texts
  obtain ⟨place', hleads, hlookup, -, hframe⟩ := hs.target
  have hlocated' := hlocated.of_directories hs.directories
  obtain rfl := hleads.unique hlocated'.leads
  refine ⟨place', hlocated', fun name => ?_⟩
  by_cases hname : name = key
  · subst hname
    rw [lookup_entry hlocated' hkey] at hlookup
    cases hfind : t'.find? (place' ++ [name]) with
    | none =>
      rw [hfind] at hlookup
      cases hlookup
    | some node =>
      rw [hfind] at hlookup
      injection hlookup with hlookup
      injection hlookup with _ hnode
      simp [Table.set, hnode]
  · rw [hframe _ (by simpa using hname), htexts]
    simp [Table.set, hname]

/-- A directory with a table is there once it was made sure of. -/
theorem HasTable.ensured (h : HasTable dir t m) :
    ∃ t₁, ensureDirectory dir t = (.ok (), t₁) ∧ Holding dir t₁ m := by
  cases h with
  | present hholding =>
    obtain ⟨place, hlocated, _⟩ := hholding.texts
    exact ⟨t, hlocated.ready, hholding⟩
  | absent _ hmade hholding => exact ⟨_, hmade, hholding⟩

/-! ## §3. One request. -/

theorem Holding.get (h : Holding dir t m) (w : Writer) (hw : w.dir = dir)
    (hkey : accepts dir key = true) : (fileStore w).get key t = .ok (m key) := by
  obtain ⟨place, hlocated, htexts⟩ := h.texts
  have hlookup := lookup_entry hlocated hkey
  rw [htexts] at hlookup
  simp only [fileStore, FileStore.get, accepts_plain hkey, if_true, hw, Tree.readText,
    Tree.readBytes]
  cases hm : m key with
  | none =>
    rw [hm] at hlookup
    simp only [hlookup, Option.map_none, bind, Except.bind]
  | some text =>
    rw [hm] at hlookup
    simp only [hlookup, Option.map_some, bind, Except.bind, pure, Except.pure,
      Text.Utf8.decode?_encode]

/-- **A get gives what the table has**, also when there is no directory yet. -/
theorem get_table (h : HasTable dir t m) (w : Writer) (hw : w.dir = dir)
    (hkey : accepts dir key = true) : (fileStore w).get key t = .ok (m key) := by
  cases h with
  | present hholding => exact hholding.get w hw hkey
  | absent hno hmade hholding =>
    by_cases hempty : dir = ""
    · -- nothing is made for the empty path
      subst hempty
      injection hmade with _ hsame
      rw [hsame]
      exact hholding.get w hw hkey
    · have hlookup := lookup_absent hempty hno (ensureDirectory_makes hno hmade) hkey
      simp only [fileStore, FileStore.get, accepts_plain hkey, if_true, hw, Tree.readText,
        Tree.readBytes, hlookup, bind, Except.bind]

/-- What a put comes to is what writing its file comes to. -/
theorem put_write (w : Writer) (hkey : isPlainKey key = true) (value : String) (t : Tree) :
    (fileStore w).put key value t
      = ((w.write key (Text.Utf8.encode value) t).1.map fun _ => (),
          (w.write key (Text.Utf8.encode value) t).2) := by
  simp only [fileStore, FileStore.put, hkey, if_true]
  split
  · next heq => rw [heq]; rfl
  · next heq => rw [heq]; rfl

/-- **A put changes the table at its key**, if the key is short enough. -/
theorem put_table {names : Nat → String} (h : HasTable dir t m)
    (hspare : Request.Spare dir m (.put key value names)) (hkey : accepts dir key = true) :
    ∃ t', (fileStore { dir := dir, names := names }).put key value t = (.ok (), t')
      ∧ Holding dir t' (m.set key value) := by
  obtain ⟨t₁, hready, hholding⟩ := h.ensured
  obtain ⟨place, hlocated, htexts⟩ := hholding.texts
  obtain ⟨hnames, n, hn, hnone⟩ := hspare
  have hfree : t₁.find? (place ++ [key]) ≠ some .directory := by
    rw [htexts]
    cases m key <;> simp
  have hunused : t₁.find? (place ++ [names n]) = none := by
    rw [htexts, hnone]
    rfl
  have hwritten := write_entry (w := { dir := dir, names := names }) rfl hready hlocated hkey hfree
    (fun n hn => accepts_iff.2 (hnames n hn)) ⟨n, hn, hunused⟩ (Text.Utf8.encode value)
  refine ⟨(Writer.write { dir := dir, names := names } key (Text.Utf8.encode value) t).2, ?_, ?_⟩
  · rw [put_write _ (accepts_plain hkey), hwritten]
    rfl
  · rcases write_after (w := { dir := dir, names := names }) (accepts_name hkey)
      (Text.Utf8.encode value) hready with ⟨_, hswapped⟩ | ⟨⟨e, he⟩, _⟩
    · exact hholding.swapped hkey hswapped
    · rw [hwritten] at he
      cases he

/-- A put under a key that is too long changes no text. -/
theorem put_unfit (h : HasTable dir t m) (hplain : isPlainKey key = true)
    (hkey : accepts dir key = false) (value : String) (names : Nat → String) :
    ∃ e t', (fileStore { dir := dir, names := names }).put key value t = (.error e, t')
      ∧ Holding dir t' m := by
  obtain ⟨t₁, hready, hholding⟩ := h.ensured
  have hname := (isPlainKey_eq_true.1 hplain).1
  have hunfit : fits dir key = false := by
    have hpath : ¬PathLike key := by
      rw [← isPlainKey_eq_false, hplain]
      exact Bool.noConfusion
    rw [← Bool.not_eq_true] at hkey ⊢
    exact fun hfits => hkey (accepts_iff.2 ⟨hpath, hfits⟩)
  rw [put_write _ hplain]
  rcases write_after (w := { dir := dir, names := names }) hname (Text.Utf8.encode value) hready
    with ⟨hpath, _⟩ | ⟨⟨e, he⟩, hworking, hfind⟩
  · have hfits := write_fits hname (Prod.ext hpath rfl)
    rw [hunfit] at hfits
    cases hfits
  · exact ⟨e, _, by rw [he]; rfl, hholding.congr hworking hfind⟩

end Holding

section Serve

variable {dir : Path} {t : Tree} {m : Table}

/-- A request leaves a directory that has the table that the request leaves. -/
theorem HasTable.perform (h : HasTable dir t m) (r : Request) (hspare : r.Spare dir m) :
    HasTable dir (r.perform dir t).2 (m.after dir r) := by
  cases r with
  | get key => exact h
  | put key value names =>
    rw [Request.perform_put]
    simp only [Table.after]
    by_cases hkey : accepts dir key = true
    · obtain ⟨t', hput, hholding⟩ := put_table h hspare hkey
      rw [hput, if_pos hkey]
      exact .present hholding
    · rw [if_neg hkey]
      by_cases hplain : isPlainKey key = true
      · obtain ⟨e, t', hput, hholding⟩ :=
          put_unfit h hplain (by simpa using hkey) value names
        rw [hput]
        exact .present hholding
      · rw [put_invalid (by simpa using hplain)]
        exact h

theorem perform_confined (r : Request) (dir : Path) (t : Tree) (l : Location)
    (hl : (r.perform dir t).2.find? l ≠ t.find? l) :
    (∃ place, (r.perform dir t).2.Leads dir place ∧ l = place ++ [r.key])
      ∨ t.find? l = none ∧ (r.perform dir t).2.find? l = some .directory
        ∧ (r.perform dir t).2.OnWay dir l := by
  cases r with
  | get key => exact absurd rfl hl
  | put key value names =>
    by_cases hplain : isPlainKey key = true
    · have hname := (isPlainKey_eq_true.1 hplain).1
      have houtcome := write_outcome { dir := dir, names := names } hname (Text.Utf8.encode value) t
      simp only [Request.perform_put, put_write _ hplain] at hl ⊢
      rcases houtcome with ⟨_, hreplaced⟩ | ⟨_, hgrown⟩
      · obtain ⟨place, hleads, _, _, hframe⟩ := hreplaced.target
        by_cases hplace : l = place ++ [key]
        · exact .inl ⟨place, hleads, hplace⟩
        · exact .inr ((hframe l hplace).resolve_left hl)
      · exact .inr ((hgrown.find? l).resolve_left hl)
    · rw [Request.perform_put, put_invalid (by simpa using hplain)] at hl
      exact absurd rfl hl

/-- **One request** is served as the table serves it. -/
theorem HasTable.serves (h : HasTable dir t m) (r : Request) (hspare : r.Spare dir m) :
    Serves dir t m r where
  refused hpath := by
    cases r with
    | get key =>
      have hget := get_invalid (isPlainKey_eq_false.2 hpath) { dir := dir } t
      exact Prod.ext (congrArg Answer.got hget) rfl
    | put key value names =>
      have hkey : isPlainKey key = false := isPlainKey_eq_false.2 hpath
      rw [Request.perform_put, put_invalid hkey]
      rfl
  served hpath hfits := by
    have hkey := accepts_iff.2 ⟨hpath, hfits⟩
    cases r with
    | get key =>
      have hget := get_table h { dir := dir } rfl hkey
      exact congrArg Answer.got hget
    | put key value names =>
      obtain ⟨t', hput, _⟩ := put_table h hspare hkey
      rw [Request.perform_put, hput]
      rfl
  apart other hother hpath hfits := by
    have hkey := accepts_iff.2 ⟨hpath, hfits⟩
    have hbefore := get_table h { dir := dir } rfl hkey
    have hafter := get_table (h.perform r hspare) { dir := dir } rfl hkey
    rw [Table.after_other hother] at hafter
    exact congrArg Answer.got (hafter.trans hbefore.symm)
  confined := perform_confined r dir t
  temporary key value names hr t₁ place t₂ _ hnew := by
    subst hr
    obtain ⟨n, hn, hcreated⟩ := createTemporary_created hnew
    obtain ⟨parent, name, hparent, hplace, -⟩ := Tree.createNew_target hcreated
    have hname := accepts_name (accepts_iff.2 (hspare.1 n hn))
    obtain ⟨hleads, -⟩ := Tree.leads_of_parentOf hname hparent
    exact ⟨parent, name, hplace, hleads⟩

end Serve

/-! ## §4. A directory that is made. -/

/-- Whatever is there is in a directory. -/
def Closed (t : Tree) : Prop :=
  ∀ place name, t.find? (place ++ [name]) ≠ none → t.find? place = some .directory

section Made

variable {t t₁ : Tree} {dir : Path}

theorem makeDirectory_made (h : t.makeDirectory dir = .ok t₁) : t₁.hasDirectory dir = true := by
  obtain ⟨parent, name, hparent, hshort, hnone, rfl⟩ := Tree.makeDirectory_target h
  have hplace : parent ++ [name] ≠ [] := by simp
  have hdirs := Tree.put_directories (t := t) hplace (by simp [hnone]) .directory
  have hfind : (t.put (parent ++ [name]) .directory).find? (parent ++ [name]) = some .directory := by
    rw [Tree.find?_put _ hplace, if_pos rfl]
  simp only [Tree.hasDirectory, Tree.lookup, Tree.parentOf_of_directories hdirs hparent, bind,
    Except.bind, Tree.slot, hshort, if_false, hfind]
  rfl

/-- When making a directory succeeds, the directory is there. -/
theorem makeAfter_made {path : Path} {above : Unit → Except IoError Unit × Tree}
    (h : t.makeAfter [] path above = (.ok (), t₁)) : t₁.hasDirectory path = true := by
  have hmade : ∀ s s' : Tree, s.makeAllowed [] path = .ok s' → s'.hasDirectory path = true :=
    fun _ _ hs => makeDirectory_made hs
  have hfound : ∀ (s : Tree) (e : IoError),
      ((if s.hasDirectory path then .ok () else .error e, s) : Except IoError Unit × Tree)
        = (.ok (), t₁) → t₁.hasDirectory path = true := by
    intro s e hs
    split at hs
    · next hthere =>
      injection hs with _ hs
      rw [← hs]
      exact hthere
    · injection hs with hs _
      cases hs
  unfold Tree.makeAfter at h
  split at h
  · next heq =>
    injection h with _ h
    exact h ▸ hmade _ _ heq
  · split at h
    · injection h with h _
      cases h
    · split at h
      · next heq =>
        injection h with _ h
        exact h ▸ hmade _ _ heq
      · exact hfound _ _ h
  · exact hfound _ _ h

theorem lookup_made (hdir : dir ≠ "") (h : t.makeDirectories dir = (.ok (), t₁)) :
    ∃ place, t₁.lookup dir = .ok (place, .directory) := by
  have hmade : t₁.hasDirectory dir = true := by
    obtain ⟨above, hafter⟩ := makeDirectories_after hdir t
    exact makeAfter_made (hafter ▸ h)
  unfold Tree.hasDirectory at hmade
  split at hmade
  · next heq => exact ⟨_, heq⟩
  · cases hmade

/-- Without going up, a walk goes down by its names. -/
theorem walk_down {all : List String} (hup : ".." ∉ all) {place next : Location}
    (h : t.walk place all = .ok next) : next = place ++ all.filter (· ≠ ".") := by
  induction all generalizing place with
  | nil =>
    injection h with h
    simp [h]
  | cons name all ih =>
    obtain ⟨hname, hall⟩ := not_or.1 (mt List.mem_cons.2 hup)
    simp only [Tree.walk, bind] at h
    cases he : t.enter place name with
    | error e =>
      rw [he] at h
      cases h
    | ok inner =>
      rw [he] at h
      have hnext := ih hall h
      by_cases hdot : name = "."
      · subst hdot
        injection he with he
        rw [hnext, he]
        simp
      · obtain ⟨-, rfl, -⟩ := Tree.enter_target hdot (Ne.symm hname) he
        rw [hnext, List.filter_cons_of_pos (by simpa using hdot)]
        simp

theorem Closed.above (h : Closed t) {front rest : Location}
    (hfind : t.find? (front ++ rest) = some .directory) : t.find? front = some .directory := by
  induction rest generalizing front with
  | nil => simpa using hfind
  | cons name rest ih =>
    have hnext : t.find? (front ++ [name]) = some .directory := ih (by simpa using hfind)
    exact h front name (by simp [hnext])

/-- A directory that is reached in one tree and is there in another, which is
closed, is reached there too. -/
theorem walk_closed (hclosed : Closed t) {all : List String} (hup : ".." ∉ all)
    {place next : Location} (h : t₁.walk place all = .ok next)
    (hfind : t.find? next = some .directory) : t.walk place all = .ok next := by
  induction all generalizing place with
  | nil => exact h
  | cons name all ih =>
    obtain ⟨hname, hall⟩ := not_or.1 (mt List.mem_cons.2 hup)
    simp only [Tree.walk, bind] at h ⊢
    cases he : t₁.enter place name with
    | error e =>
      rw [he] at h
      cases h
    | ok inner =>
      rw [he] at h
      have hinner : t.enter place name = .ok inner := by
        by_cases hdot : name = "."
        · subst hdot
          exact he
        · obtain ⟨hshort, rfl, -⟩ := Tree.enter_target hdot (Ne.symm hname) he
          rw [walk_down hall h] at hfind
          exact Tree.enter_directory hdot (Ne.symm hname) hshort (hclosed.above hfind)
      rw [hinner]
      exact ih hall h

/-- **A directory that is made without going up is empty.** -/
theorem made_empty (hclosed : Closed t) (hup : ".." ∉ names dir) (hdir : dir ≠ "")
    (hno : t.contains dir = false) (hmade : ensureDirectory dir t = (.ok (), t₁)) :
    HasTable dir t (fun _ => none) := by
  have hgrown := ensureDirectory_grown dir t {}
  rw [hmade] at hgrown
  obtain ⟨place, hlookup⟩ := lookup_made hdir (ensureDirectory_makes hno hmade)
  have hcheck := (walk_absent hdir hno (ensureDirectory_makes hno hmade)).1
  have hleads := Tree.leads_of_lookup hlookup
  -- the directory is new, for otherwise it would have been there
  have hnew : t.find? place ≠ some .directory := by
    intro hfind
    have hthere : t.Leads dir place := by
      have hstart : t₁.start dir = t.start dir := by rw [Tree.start, Tree.start, hgrown.working]
      unfold Tree.Leads at hleads ⊢
      rw [hstart] at hleads
      exact walk_closed hclosed hup hleads hfind
    rw [Tree.contains, Tree.lookup_of_leads hcheck hthere] at hno
    cases hno
  refine .absent hno hmade ⟨place, .found hlookup, fun name => ?_⟩
  have hnone : t.find? (place ++ [name]) = none := by
    by_contra hsome
    exact hnew (hclosed place name hsome)
  rcases hgrown.find? (place ++ [name]) with hsame | ⟨_, _, n, hway⟩
  · rw [hsame, hnone]
    rfl
  · -- all that is made is on the way, and nothing on the way is below the directory
    have hend := walk_down hup hleads
    have hbelow := walk_down (fun hmem => hup (List.mem_of_mem_take hmem)) hway
    have hshorter := ((List.take_sublist n (names dir)).filter (· ≠ ".")).length_le
    have hlength := congrArg List.length hbelow
    rw [hend] at hlength
    simp only [List.length_append, List.length_singleton] at hlength
    omega

end Made

/-! ## §5. Every sequence of requests. -/

/-- In a sequence of requests, each put finds a name for its new file. -/
def AllSpare (dir : Path) (m : Table) (requests : List Request) : Prop :=
  ∀ before r later, requests = before ++ r :: later → r.Spare dir (m.afterAll dir before)

theorem HasTable.performAll {dir : Path} {t : Tree} {m : Table} (h : HasTable dir t m)
    {requests : List Request} (hspare : AllSpare dir m requests) :
    HasTable dir (Request.performAll dir t requests) (m.afterAll dir requests) := by
  induction requests generalizing t m with
  | nil => exact h
  | cons r requests ih =>
    refine ih (h.perform r (hspare [] r requests rfl)) fun before next later heq => ?_
    exact hspare (r :: before) next later (by rw [heq]; rfl)

/-- A request finds the table that those before it have left. -/
theorem HasTable.serves_next {dir : Path} {t : Tree} {m : Table} (h : HasTable dir t m)
    {before : List Request} {r : Request} {later : List Request}
    (hspare : AllSpare dir m (before ++ r :: later)) :
    Serves dir (Request.performAll dir t before) (m.afterAll dir before) r := by
  have hbefore : AllSpare dir m before := fun front next back hfront =>
    hspare front next (back ++ r :: later) (by rw [hfront]; simp)
  exact (h.performAll hbefore).serves r (hspare before r later rfl)

/-- **A store of files is a table of texts.**  If its directory has a table, every
request of every sequence is served as the table serves it. -/
theorem store_is_table {dir : Path} {t : Tree} {m : Table} (h : HasTable dir t m)
    {requests : List Request} (hspare : AllSpare dir m requests) :
    ∀ before r later, requests = before ++ r :: later →
      Serves dir (Request.performAll dir t before) (m.afterAll dir before) r := by
  rintro before r later rfl
  exact h.serves_next hspare

/-- **A store in a directory that is not there yet** begins with the empty table,
if the directory can be made and its path does not go up. -/
theorem new_store_is_table {dir : Path} {t t₁ : Tree} (hclosed : Closed t)
    (hup : ".." ∉ names dir) (hdir : dir ≠ "") (hno : t.contains dir = false)
    (hmade : ensureDirectory dir t = (.ok (), t₁)) {requests : List Request}
    (hspare : AllSpare dir (fun _ => none) requests) :
    ∀ before r later, requests = before ++ r :: later →
      Serves dir (Request.performAll dir t before)
        (Table.afterAll dir (fun _ => none) before) r := by
  rintro before r later rfl
  exact (made_empty hclosed hup hdir hno hmade).serves_next hspare

/-- The texts of a directory with one file. -/
def oneText : Table := fun name => if name = "n" then some "old" else none

theorem oneFile_holding : Holding "d" oneFile oneText := by
  have hleads : oneFile.Leads "d" ["d"] := by
    unfold Tree.Leads
    rw [names_of_plain (by decide) (by decide)]
    rfl
  refine ⟨["d"], .found (Tree.lookup_of_leads rfl hleads), fun name => ?_⟩
  by_cases hname : name = "n"
  · subst hname
    rfl
  · simp [oneText, hname, Tree.find?, oneFile, Ne.symm hname]

/-- A text is put beside another one, and both are there. -/
theorem two_texts :
    HasTable "d" oneFile oneText
      ∧ AllSpare "d" oneText [.put "k" "v" fun _ => ".tmp", .get "k", .get "n"]
      ∧ ((Request.get "k").perform "d"
          (Request.performAll "d" oneFile [.put "k" "v" fun _ => ".tmp"])).1 = .got (.ok (some "v"))
      ∧ ((Request.get "n").perform "d"
          (Request.performAll "d" oneFile [.put "k" "v" fun _ => ".tmp", .get "k"])).1
        = .got (.ok (some "old")) := by
  have htable : HasTable "d" oneFile oneText := .present oneFile_holding
  have hspare : AllSpare "d" oneText [.put "k" "v" fun _ => ".tmp", .get "k", .get "n"] := by
    intro before r later heq
    match before, heq with
    | [], heq =>
      obtain ⟨rfl, -⟩ := List.cons.inj heq
      exact ⟨fun _ _ => show ¬PathLike ".tmp" ∧ fits "d" ".tmp" = true by decide, 0, by decide,
        by decide⟩
    | [_], heq =>
      obtain ⟨-, heq⟩ := List.cons.inj heq
      obtain ⟨rfl, -⟩ := List.cons.inj heq
      trivial
    | [_, _], heq =>
      obtain ⟨-, heq⟩ := List.cons.inj heq
      obtain ⟨-, heq⟩ := List.cons.inj heq
      obtain ⟨rfl, -⟩ := List.cons.inj heq
      trivial
    | _ :: _ :: _ :: _ :: _, heq => cases heq
  have hserves := store_is_table htable hspare
  refine ⟨htable, hspare, ?_, ?_⟩
  · have hanswer := (hserves [.put "k" "v" fun _ => ".tmp"] (.get "k") [.get "n"] rfl).served
      (by decide) (by decide)
    rw [hanswer]
    rfl
  · have hanswer := (hserves [.put "k" "v" fun _ => ".tmp", .get "k"] (.get "n") [] rfl).served
      (by decide) (by decide)
    rw [hanswer]
    rfl

/-! ## §6. What is not a table. -/

/-- Many names that all stand for the working directory. -/
def longPath : Nat → Path
  | 0 => "."
  | n + 1 => "." ++ "/" ++ longPath n

/-- A name as long as names can be. -/
def longKey : String := String.ofList (List.replicate 255 'k')

theorem longPath_leads (n : Nat) : ({} : Tree).Leads (longPath n) [] := by
  have hstart : ∀ path, ({} : Tree).start path = [] := by
    intro path
    unfold Tree.start
    split <;> rfl
  have hdot : names "." = ["."] := names_of_plain (by decide) (by decide)
  unfold Tree.Leads
  rw [hstart]
  induction n with
  | zero =>
    show Tree.walk {} [] (names ".") = _
    rw [hdot]
    rfl
  | succ n ih =>
    show Tree.walk {} [] (names ("." ++ "/" ++ longPath n)) = _
    rw [names_joined, hdot, Tree.walk_append]
    exact ih

theorem longPath_size (n : Nat) : (longPath n).utf8ByteSize = 2 * n + 1 := by
  induction n with
  | zero => rfl
  | succ n ih =>
    have hdot : ("." : String).utf8ByteSize = 1 := rfl
    have hslash : ("/" : String).utf8ByteSize = 1 := rfl
    simp only [longPath, String.utf8ByteSize_append, ih, hdot, hslash]
    omega

theorem longPath_ne_empty (n : Nat) : longPath n ≠ "" := by
  intro hempty
  have hsize := longPath_size n
  rw [hempty] at hsize
  cases hsize

theorem longPath_no_nul (n : Nat) : (longPath n).toList.any (·.toNat == 0) = false := by
  induction n with
  | zero => rfl
  | succ n ih =>
    simp only [longPath, String.toList_append, List.any_append, ih]
    rfl

theorem longPath_checked {n : Nat} (h : 2 * n + 1 < Tree.pathLimit) :
    Tree.checkPath (longPath n) = .ok () := by
  have hempty : (longPath n).isEmpty = false := by
    rw [Bool.eq_false_iff]
    exact fun hempty => longPath_ne_empty n (String.isEmpty_iff.1 hempty)
  unfold Tree.checkPath
  rw [longPath_no_nul, hempty, longPath_size, if_neg (by decide), if_neg (by decide),
    if_neg (Nat.not_le.2 h)]

theorem longPath_holding {n : Nat} (h : 2 * n + 1 < Tree.pathLimit) :
    Holding (longPath n) {} (fun _ => none) :=
  ⟨[], .found (Tree.lookup_of_leads (longPath_checked h) (longPath_leads n)), fun _ => rfl⟩

theorem longKey_letters : longKey.toList = List.replicate 255 'k' := String.toList_ofList

theorem longKey_plain : isPlainKey longKey = true := by
  have hother : ∀ other : String, other.toList.length ≠ 255 → longKey ≠ other := by
    rintro other hlength rfl
    exact hlength (by rw [longKey_letters, List.length_replicate])
  have hletter : ∀ c ∈ longKey.toList, c = 'k' := by
    rw [longKey_letters]
    exact fun c hc => List.eq_of_mem_replicate hc
  refine isPlainKey_eq_true.2 ⟨⟨hother _ (by decide), hother _ (by decide), hother _ (by decide),
    fun hslash => ?_⟩, fun c hc => ?_⟩
  · exact absurd (hletter _ hslash) (by decide)
  · rw [hletter c hc]
    decide

theorem longKey_size : longKey.utf8ByteSize = 255 := by
  have hsize : ∀ n, (String.ofList (List.replicate n 'k')).utf8ByteSize = n := by
    intro n
    induction n with
    | zero => rfl
    | succ n ih =>
      rw [List.replicate_succ', String.ofList_append, String.utf8ByteSize_append, ih]
      rfl
  exact hsize 255

theorem get_tooLong {w : Writer} {key : String} {t : Tree} (hplain : isPlainKey key = true)
    (hlong : Tree.checkPath (join w.dir key) = .error .nameTooLong) :
    (fileStore w).get key t = .error (.io .nameTooLong) := by
  simp only [fileStore, FileStore.get, hplain, if_true, Tree.readText, Tree.readBytes,
    Tree.lookup, Tree.parentOf, hlong, bind, Except.bind]

theorem longPath_joined (n : Nat) : join (longPath n) longKey = longPath n ++ "/" ++ longKey := by
  have hslash : endsInSlash (longPath n) = false := by
    induction n with
    | zero => rfl
    | succ n ih =>
      rw [longPath, endsInSlash_append (longPath_ne_empty n)]
      exact ih
  have hempty : (longPath n).isEmpty = false := by
    rw [Bool.eq_false_iff]
    exact fun hempty => longPath_ne_empty n (String.isEmpty_iff.1 hempty)
  exact join_of_relative (isPlainKey_eq_true.1 longKey_plain).1.relative hempty hslash

/-- The path of a file can be too long though those of its directory and its
name are not. -/
theorem longPath_get {n : Nat} (h : Tree.pathLimit ≤ 2 * n + 257) :
    (fileStore { dir := longPath n }).get longKey {} = .error (.io .nameTooLong) := by
  have hjoined := longPath_joined n
  have hnul : (join (longPath n) longKey).toList.any (·.toNat == 0) = false := by
    have hkey : longKey.toList.any (·.toNat == 0) = false := by
      rw [longKey_letters, List.any_replicate]
      decide
    rw [hjoined, String.toList_append, String.toList_append, List.any_append, List.any_append,
      longPath_no_nul, hkey]
    rfl
  have hsize : (join (longPath n) longKey).utf8ByteSize = 2 * n + 257 := by
    have hslash : ("/" : String).utf8ByteSize = 1 := rfl
    rw [hjoined, String.utf8ByteSize_append, String.utf8ByteSize_append, longPath_size, hslash,
      longKey_size]
  have hempty : (join (longPath n) longKey).isEmpty = false := by
    rw [Bool.eq_false_iff]
    intro hempty
    rw [String.isEmpty_iff.1 hempty] at hsize
    exact absurd hsize.symm (Nat.succ_ne_zero _)
  have hlong : Tree.checkPath (join (longPath n) longKey) = .error .nameTooLong := by
    unfold Tree.checkPath
    rw [hnul, hempty, hsize, if_neg (by decide), if_neg (by decide), if_pos h]
  exact get_tooLong longKey_plain hlong

/-- The tree after a directory has been made by going up from another one. -/
def goneUp : Tree := { nodes := [(["a"], .directory), (["a", "b"], .directory)] }

theorem goneUp_put : ((fileStore { dir := "a/b/.." }).put "b" "v" {}).2 = goneUp := by
  decide +kernel

theorem goneUp_get : ((fileStore { dir := "a/b/.." }).get "b" goneUp).toOption = none := by
  decide +kernel

/-- **Not every directory that is there or can be made is a table.**  One that is
made by going up has a directory in it from the start, and the key of that name
is not served.  In one with a long path, a key that is not too long itself can
be so with that path. -/
theorem not_every_store_is_table :
    (({} : Tree).contains "a/b/.." = false
        ∧ (ensureDirectory "a/b/.." {}).1.toOption = some ()
        ∧ isPlainKey "b" = true ∧ "b".utf8ByteSize ≤ 255
        ∧ ((fileStore { dir := "a/b/.." }).put "b" "v" {}).1.toOption = none
        ∧ ((fileStore { dir := "a/b/.." }).get "b"
            ((fileStore { dir := "a/b/.." }).put "b" "v" {}).2).toOption = none)
      ∧ Holding (longPath 1949) {} (fun _ => none)
        ∧ isPlainKey longKey = true ∧ longKey.utf8ByteSize ≤ 255
        ∧ (fileStore { dir := longPath 1949 }).get longKey {} = .error (.io .nameTooLong) := by
  refine ⟨⟨by decide +kernel, by decide +kernel, by decide, by decide, by decide +kernel, ?_⟩,
    longPath_holding (by decide), longKey_plain, Nat.le_of_eq longKey_size, longPath_get (by decide)⟩
  rw [goneUp_put]
  exact goneUp_get

end RenderDesk.Storage
