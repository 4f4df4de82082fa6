/-
  RenderDesk.Proofs.Downloading
  ─────────────────────────────
  An artifact is taken up to a limit, however it is cut into chunks.

  A length that is announced beyond the limit is refused before anything of the
  body is taken.  Otherwise chunks are kept as long as they fit, and the first
  total that does not fit ends the download, whatever would have come behind
  it.  What is held never grows beyond the limit, and whether a body is
  accepted depends on its bytes only.

  Main statements:
    * `collect_append` — a download goes on from what it held, or has stopped;
    * `collect_excess` — it stops at the first total beyond the limit;
    * `collect_kept` — what does not stop keeps everything;
    * `artifact_capped` — all of it for the artifacts of a service.
-/
import RenderDesk.Proofs.Decoding

/-! ## §1. Bodies as they arrive. -/

namespace RenderDesk.Http

/-- The running totals of a body: nothing at first, then one chunk more each
time. -/
def Body.totals (b : Body) : List Nat :=
  b.chunks.scanl (fun total chunk => total + chunk.size) 0

/-- A response does not announce more than a limit. -/
def Response.MayFit (r : Response) (limit : Nat) : Prop :=
  ∀ length, r.declaredLength = some length → length ≤ limit

end RenderDesk.Http

namespace RenderDesk.Service

open RenderDesk.Http

theorem size_le_joined (kept : ByteArray) (chunks : List ByteArray) :
    kept.size ≤ (chunks.foldl (· ++ ·) kept).size := by
  induction chunks generalizing kept with
  | nil => exact Nat.le_refl _
  | cons chunk rest ih =>
    have hrest := ih (kept ++ chunk)
    rw [ByteArray.size_append] at hrest
    exact Nat.le_trans (Nat.le_add_right _ _) hrest

/-- No running total is beyond the limit exactly when all bytes fit. -/
theorem totals_fit_iff (limit : Nat) (kept : ByteArray) (chunks : List ByteArray) :
    (chunks.scanl (fun total chunk => total + chunk.size) kept.size).find? (limit < ·) = none
      ↔ (chunks.foldl (· ++ ·) kept).size ≤ limit := by
  induction chunks generalizing kept with
  | nil => simp
  | cons chunk rest ih =>
    have hrest := ih (kept ++ chunk)
    rw [ByteArray.size_append] at hrest
    have hgrows := size_le_joined kept (chunk :: rest)
    rw [List.scanl_cons, List.find?_cons, List.foldl_cons]
    rw [List.foldl_cons] at hgrows
    by_cases hbig : limit < kept.size
    · simp only [hbig, decide_true]
      constructor
      · rintro ⟨⟩
      · intro hfits
        omega
    · simp only [hbig, decide_false]
      exact hrest

/-! ## §2. Downloads. -/

variable {limit : Nat} {kept : ByteArray}

/-- **A download goes on from what it held**, unless it has stopped. -/
theorem collect_append (limit : Nat) (kept : ByteArray) (front rest : List ByteArray) :
    collect limit kept (front ++ rest)
      = if (collect limit kept front).excess.isSome then collect limit kept front
        else collect limit (collect limit kept front).kept rest := by
  induction front generalizing kept with
  | nil => rfl
  | cons chunk front ih =>
    by_cases hbig : limit < kept.size + chunk.size
    · simp [collect, hbig]
    · simp only [List.cons_append, collect, hbig, if_false]
      exact ih (kept ++ chunk)

/-- **A download stops at the first total beyond the limit.** -/
theorem collect_excess (hk : kept.size ≤ limit) (chunks : List ByteArray) :
    (collect limit kept chunks).excess
      = (chunks.scanl (fun total chunk => total + chunk.size) kept.size).find? (limit < ·) := by
  induction chunks generalizing kept with
  | nil =>
    have hfits : ¬limit < kept.size := by omega
    simp [collect, hfits]
  | cons chunk rest ih =>
    have hfits : ¬limit < kept.size := by omega
    rw [List.scanl_cons, List.find?_cons]
    simp only [hfits, decide_false, collect]
    by_cases hbig : limit < kept.size + chunk.size
    · -- the total with this chunk is the first one of the rest
      cases rest <;> simp [hbig]
    · have hnext : (kept ++ chunk).size ≤ limit := by
        rw [ByteArray.size_append]
        omega
      have hrest := ih hnext
      rw [ByteArray.size_append] at hrest
      rw [if_neg hbig, hrest]

/-- **A download that does not stop keeps everything.** -/
theorem collect_kept {chunks : List ByteArray} (h : (collect limit kept chunks).excess = none) :
    (collect limit kept chunks).kept = chunks.foldl (· ++ ·) kept := by
  induction chunks generalizing kept with
  | nil => rfl
  | cons chunk rest ih =>
    by_cases hbig : limit < kept.size + chunk.size
    · simp [collect, hbig] at h
    · simp only [collect, hbig, if_false] at h ⊢
      exact ih h

/-! ## §3. Artifacts. -/

variable {url : Url} {r : Response}

theorem readArtifact_declared {length : Nat} (hdeclared : r.declaredLength = some length)
    (hbig : limit < length) : readArtifact limit url r = .error (tooLarge limit length) := by
  simp [readArtifact, hdeclared, Option.filter, hbig]

/-- What becomes of an artifact whose length is not refused beforehand. -/
theorem readArtifact_eq (hfit : r.MayFit limit) :
    readArtifact limit url r
      = match r.body.totals.find? (limit < ·) with
        | some total => .error (tooLarge limit total)
        | none =>
          match r.body.ending with
          | .complete => .ok r.body.bytes
          | ending => .error (bodyFailure url ending) := by
  have hdeclared : r.declaredLength.filter (limit < ·) = none := by
    rw [Option.filter_eq_none_iff]
    intro length hlength
    simpa using hfit length hlength
  have hexcess : (collect limit .empty r.body.chunks).excess
      = r.body.totals.find? (limit < ·) := collect_excess (Nat.zero_le limit) r.body.chunks
  unfold readArtifact
  rw [hdeclared]
  simp only [hexcess]
  cases htotal : r.body.totals.find? (limit < ·) with
  | some total => rfl
  | none =>
    have hall : (collect limit .empty r.body.chunks).kept = r.body.bytes :=
      collect_kept (hexcess.trans htotal)
    cases r.body.ending with
    | complete => exact congrArg Except.ok hall
    | broken | timedOut => rfl

/-- What a download under a limit makes of a response of success. -/
structure Capped (limit : Nat) (url : Url) (r : Response) (result : Result ByteArray) : Prop where
  /-- A length beyond the limit is refused, whatever the body is. -/
  declared : ∀ length, r.declaredLength = some length → limit < length →
    result = .error (tooLarge limit length)
  /-- A body is accepted that comes to its end within the limit; all of it is kept. -/
  accepted : r.MayFit limit → ∀ bytes, result = .ok bytes
    ↔ r.body.ending = .complete ∧ r.body.bytes.size ≤ limit ∧ bytes = r.body.bytes
  /-- A body is too large from the first total beyond the limit. -/
  exceeded : r.MayFit limit → ∀ f : Failure,
    (result = .error f ∧ ∃ most actual, f.cause = .tooLarge most actual)
      ↔ ∃ total, r.body.totals.find? (limit < ·) = some total ∧ f = tooLarge limit total
  /-- A body that fits and breaks off is a failure of its own. -/
  interrupted : r.MayFit limit → r.body.bytes.size ≤ limit → r.body.ending ≠ .complete →
    result = .error (bodyFailure url r.body.ending)
  /-- At no time more is held than the limit. -/
  held : ∀ front rest, r.body.chunks = front ++ rest →
    (collect limit .empty front).kept.size ≤ limit
  /-- After some of its chunks the download of a body has stopped, or goes on from
  what it holds. -/
  onward : ∀ front rest, r.body.chunks = front ++ rest →
    collect limit .empty r.body.chunks
      = if (collect limit .empty front).excess.isSome then collect limit .empty front
        else collect limit (collect limit .empty front).kept rest

theorem bodyFailure_cause (url : Url) (ending : Ending) (most : Nat) (actual : Option Nat) :
    (bodyFailure url ending).cause ≠ .tooLarge most actual := by
  cases ending <;> simp [bodyFailure]

/-- The totals of a body that fits are all within the limit. -/
theorem totals_none_iff : r.body.totals.find? (limit < ·) = none ↔ r.body.bytes.size ≤ limit :=
  totals_fit_iff limit .empty r.body.chunks

theorem readArtifact_ok_iff (hfit : r.MayFit limit) (bytes : ByteArray) :
    readArtifact limit url r = .ok bytes
      ↔ r.body.ending = .complete ∧ r.body.bytes.size ≤ limit ∧ bytes = r.body.bytes := by
  rw [readArtifact_eq hfit, ← totals_none_iff]
  cases htotal : r.body.totals.find? (limit < ·) with
  | some total => simp
  | none => cases hending : r.body.ending <;> simp [eq_comm]

theorem readArtifact_tooLarge_iff (hfit : r.MayFit limit) (f : Failure) :
    (readArtifact limit url r = .error f ∧ ∃ most actual, f.cause = .tooLarge most actual)
      ↔ ∃ total, r.body.totals.find? (limit < ·) = some total ∧ f = tooLarge limit total := by
  rw [readArtifact_eq hfit]
  cases htotal : r.body.totals.find? (limit < ·) with
  | some total =>
    constructor
    · rintro ⟨hf, _⟩
      exact ⟨total, rfl, (Except.error.inj hf).symm⟩
    · rintro ⟨other, hother, rfl⟩
      rw [Option.some.inj hother]
      exact ⟨rfl, limit, some other, rfl⟩
  | none =>
    constructor
    · rintro ⟨hf, most, actual, hcause⟩
      -- a body that breaks off is not too large
      cases hending : r.body.ending with
      | complete =>
        rw [hending] at hf
        cases hf
      | broken | timedOut =>
        rw [hending] at hf
        rw [← Except.error.inj hf] at hcause
        exact absurd hcause (bodyFailure_cause _ _ _ _)
    · rintro ⟨_, ⟨⟩, _⟩

theorem readArtifact_interrupted (hfit : r.MayFit limit) (hsize : r.body.bytes.size ≤ limit)
    (hending : r.body.ending ≠ .complete) :
    readArtifact limit url r = .error (bodyFailure url r.body.ending) := by
  rw [readArtifact_eq hfit, totals_none_iff.2 hsize]
  cases hbroken : r.body.ending with
  | complete => exact absurd hbroken hending
  | broken | timedOut => rfl

theorem readArtifact_capped (limit : Nat) (url : Url) (r : Response) :
    Capped limit url r (readArtifact limit url r) where
  declared := fun _ hdeclared hbig => readArtifact_declared hdeclared hbig
  accepted := fun hfit bytes => readArtifact_ok_iff hfit bytes
  exceeded := fun hfit f => readArtifact_tooLarge_iff hfit f
  interrupted := readArtifact_interrupted
  held := fun front _ _ => collect_limit (Nat.zero_le limit) front
  onward := by
    intro front rest hchunks
    rw [hchunks]
    exact collect_append limit .empty front rest

/-! ## §4. The artifacts of a service. -/

theorem fetchArtifact_eq {σ : Type} {link : Link σ} {settings : Settings} {base : Url}
    {reference : String} {net net' : σ} {elapsed : Duration}
    (haddress : resolve base reference = .ok url)
    (hsend : send link settings.requestTimeout { method := .get, url } net
      = (.after elapsed (.ok r), net'))
    (hsuccess : r.isSuccess = true) :
    (remote link settings base).fetchArtifact reference net
      = (.after elapsed (readArtifact settings.artifactLimit url r), net') := by
  show withUrl (resolve base reference) _ net = _
  rw [haddress, withUrl_ok, exchange_success hsend hsuccess]

/-- Whether a whole body is accepted, and what is kept, is up to its bytes. -/
theorem readArtifact_cut (hending : r.body.ending = .complete) {chunks : List ByteArray}
    (hbytes : ({ chunks } : Body).bytes = r.body.bytes) (bytes : ByteArray) :
    readArtifact limit url { r with body := { chunks } } = .ok bytes
      ↔ readArtifact limit url r = .ok bytes := by
  by_cases hfit : r.MayFit limit
  · have hfit' : ({ r with body := { chunks } } : Response).MayFit limit := hfit
    rw [readArtifact_ok_iff hfit, readArtifact_ok_iff hfit', hbytes, hending]
  · -- the length that is announced is refused in both cases
    obtain ⟨length, hlength⟩ := Classical.not_forall.1 hfit
    obtain ⟨hdeclared, hbig⟩ := Classical.not_imp.1 hlength
    have hdeclared' : ({ r with body := { chunks } } : Response).declaredLength = some length :=
      hdeclared
    rw [readArtifact_declared hdeclared (Nat.not_le.1 hbig),
      readArtifact_declared hdeclared' (Nat.not_le.1 hbig)]

/-- **An artifact is taken up to the limit, however it is cut into chunks.**  A
response of success that its reference leads to is downloaded under the limit,
and the same bytes cut in another way, from whatever network, are accepted
alike. -/
theorem artifact_capped {σ : Type} {link : Link σ} {settings : Settings} {base : Url}
    {reference : String} {net net' : σ} {elapsed : Duration}
    (haddress : resolve base reference = .ok url)
    (hsend : send link settings.requestTimeout { method := .get, url } net
      = (.after elapsed (.ok r), net'))
    (hsuccess : r.isSuccess = true) :
    ∃ result,
      (remote link settings base).fetchArtifact reference net = (.after elapsed result, net')
        ∧ Capped settings.artifactLimit url r result
        ∧ ∀ {τ : Type} {other : Link τ} {there there' : τ} {later : Duration}
            {chunks : List ByteArray},
          r.body.ending = .complete → ({ chunks } : Body).bytes = r.body.bytes →
          send other settings.requestTimeout { method := .get, url } there
              = (.after later (.ok { r with body := { chunks } }), there') →
          ∃ result', (remote other settings base).fetchArtifact reference there
              = (.after later result', there')
            ∧ ∀ bytes, result' = .ok bytes ↔ result = .ok bytes := by
  refine ⟨_, fetchArtifact_eq haddress hsend hsuccess, readArtifact_capped _ url r, ?_⟩
  intro τ other there there' later chunks hending hbytes hsend'
  exact ⟨_, fetchArtifact_eq haddress hsend' hsuccess, readArtifact_cut hending hbytes⟩

/-- Five bytes in chunks, of which one is empty. -/
def fiveBytes : Response where
  status := 200
  body := { chunks := ["ab".toUTF8, "".toUTF8, "cde".toUTF8] }

/-- The same bytes, and a false announcement. -/
def fiveBytesInOne : Response := { fiveBytes with body := { chunks := ["abcde".toUTF8] } }

def limitedTo (limit : Nat) : Settings := { artifactLimit := limit }

/-- Five bytes are accepted under a limit of five, in three pieces and in one;
under a limit of four they are too large when the last piece comes. -/
theorem five_bytes_capped :
    (∃ result result',
      (remote (serving fiveBytes) (limitedTo 5) depot).fetchArtifact "/a" () = (.now result, ())
        ∧ (remote (serving fiveBytesInOne) (limitedTo 5) depot).fetchArtifact "/a" ()
          = (.now result', ())
        ∧ result = .ok "abcde".toUTF8 ∧ result' = .ok "abcde".toUTF8)
    ∧ ∃ result, (remote (serving fiveBytes) (limitedTo 4) depot).fetchArtifact "/a" ()
        = (.now result, ())
      ∧ result = .error (tooLarge 4 5) := by
  have haddress : resolve depot "/a" = .ok { depot with route := .segments ["a".toList] } := rfl
  have hsend : ∀ limit, send (serving fiveBytes) (limitedTo limit).requestTimeout
      { method := .get, url := { depot with route := .segments ["a".toList] } } ()
        = (.now (.ok fiveBytes), ()) := fun _ => rfl
  have hsend' : send (serving fiveBytesInOne) (limitedTo 5).requestTimeout
      { method := .get, url := { depot with route := .segments ["a".toList] } } ()
        = (.now (.ok fiveBytesInOne), ()) := rfl
  have hfit : ∀ limit, fiveBytes.MayFit limit := by simp [Response.MayFit, fiveBytes]
  have hbytes : fiveBytesInOne.body.bytes = fiveBytes.body.bytes := by decide +kernel
  have hjoined : "abcde".toUTF8 = fiveBytes.body.bytes := by decide +kernel
  constructor
  · obtain ⟨result, hfetch, hcapped, hcut⟩ := artifact_capped haddress (hsend 5) rfl
    obtain ⟨result', hfetch', hsame⟩ := hcut rfl hbytes hsend'
    have hresult := (hcapped.accepted (hfit 5) _).2 ⟨rfl, by decide +kernel, hjoined⟩
    exact ⟨result, result', hfetch, hfetch', hresult, (hsame _).2 hresult⟩
  · obtain ⟨result, hfetch, hcapped, _⟩ := artifact_capped haddress (hsend 4) rfl
    have htotal : fiveBytes.body.totals.find? (4 < ·) = some 5 := by decide +kernel
    exact ⟨result, hfetch, ((hcapped.exceeded (hfit 4) _).2 ⟨5, htotal, rfl⟩).1⟩

end RenderDesk.Service
