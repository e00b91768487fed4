import Anchr.Infra.JsonRoundtrip
import Anchr.Proofs.PhotoIntegrity

/-!
# The signed position

Under a requirement with an expected position, a verification passes only on C2PA results that are
signed and near it. Nothing is passed over: where there is no result to look at, that is a failure.
-/

namespace Anchr.Proofs

open Infra Requests

/-! ## A result and its report -/

/-- The result is available, has a manifest with a valid signature, and its position is no further
from the expected one than allowed. -/
structure BoundTo (R : C2paTools) (expected : GpsCoord) (maxGpsDist : JsNumber)
    (c2pa : C2paValidationResult) : Prop where
  available : c2pa.available = true
  hasManifest : c2pa.hasManifest = true
  signatureValid : c2pa.signatureValid = true
  near : ∃ gps, c2pa.gps = some gps ∧ (R.haversineKm gps expected).le maxGpsDist = true

def activeStatus (report : Json) (name : String) : Option Json :=
  ((report.get? "validation_results").bind (·.get? "activeManifest")).bind (·.get? name)

/-- The report lists `claimSignature.validated` among the successes of the active manifest, and no
failure. -/
def SignedReport (report : Json) : Prop :=
  (∃ successes, activeStatus report "success" = some (.arr successes) ∧
    ∃ entry ∈ successes, entry.get? "code" = some (.str "claimSignature.validated")) ∧
  ∀ failure, activeStatus report "failure" = some failure → failure = .null ∨ failure = .arr []

def ActiveManifest (R : C2paTools) (report active : Json) : Prop :=
  ∃ manifests label name, report.get? "manifests" = some manifests ∧
    report.get? "active_manifest" = some label ∧ stringOf R.text label = some name ∧
    manifests.ownProperty R.text name = some active

/-- The position stands in an exif assertion of the active manifest of the report. -/
def ExifPosition (R : C2paTools) (report : Json) (gps : GpsCoord) : Prop :=
  ∃ active assertions assertion data, ActiveManifest R report active ∧
    active.get? "assertions" = some (.arr assertions) ∧ assertion ∈ assertions ∧
    isExifAssertion assertion = some true ∧ assertion.get? "data" = some data ∧
    assertionGps R data = some gps

variable {R : C2paTools}

variable {codes : List Json} {report active : Json} {gps expected : GpsCoord}
  {maxGpsDist : JsNumber}

theorem claimSignatureOk_true (h : claimSignatureOk codes = some true) :
    ∃ entry ∈ codes, entry.get? "code" = some (.str "claimSignature.validated") := by
  fun_induction claimSignatureOk codes with
  | case1 => cases h
  | case2 => cases h
  | case3 v rest hv hcode =>
    refine ⟨v, List.mem_cons_self, ?_⟩
    obtain ⟨found, hfound, htext⟩ := Option.bind_eq_some_iff.mp hcode
    cases found with
    | str s => rw [hfound, Option.some.inj htext]
    | null | bool | num | arr | obj => cases htext
  | case4 v rest hv hcode ih =>
    obtain ⟨entry, hmem, hentry⟩ := ih h
    exact ⟨entry, List.mem_cons_of_mem v hmem, hentry⟩

/-- No code is ignorable, so only an empty list has no real failures. -/
theorem realFailures_nil (h : realFailures codes = some []) : codes = [] := by
  cases codes with
  | nil => rfl
  | cons v rest =>
    have hnot : (v.string? "code").any ignorableFailureCodes.contains = false := by
      cases v.string? "code" <;> simp [ignorableFailureCodes]
    cases v <;> simp [realFailures, hnot] at h

variable {name filename : String} {result c2pa : C2paValidationResult}

theorem statusCodes_eq (h : statusCodes report name = some codes) :
    activeStatus report name = some (.arr codes) ∨
      (codes = [] ∧ ∀ status, activeStatus report name = some status → status = .null) := by
  unfold statusCodes at h
  unfold activeStatus
  split at h
  · next hnone =>
    refine .inr ⟨(Option.some.inj h).symm, fun status hstatus => ?_⟩
    rw [hnone] at hstatus
    cases hstatus
  · next hnull =>
    refine .inr ⟨(Option.some.inj h).symm, fun status hstatus => ?_⟩
    rw [hnull] at hstatus
    exact (Option.some.inj hstatus).symm
  · next codes' hcodes =>
    cases h
    exact .inl hcodes
  · cases h

theorem signedReport_of_evaluateSignature (h : evaluateSignature report = some true) :
    SignedReport report := by
  unfold evaluateSignature at h
  simp only [Option.bind_eq_bind, Option.bind_eq_some_iff, Option.some.injEq,
    Bool.and_eq_true] at h
  obtain ⟨successes, hsuccess, failures, hfailure, ok, hok, real, hreal, rfl, hempty⟩ := h
  obtain ⟨entry, hmem, hcode⟩ := claimSignatureOk_true hok
  obtain rfl : real = [] := List.isEmpty_iff.mp hempty
  obtain rfl : failures = [] := realFailures_nil hreal
  constructor
  · rcases statusCodes_eq hsuccess with hlisted | ⟨rfl, -⟩
    · exact ⟨successes, hlisted, entry, hmem, hcode⟩
    · cases hmem
  · intro failure hlisted
    rcases statusCodes_eq hfailure with hnone | ⟨-, hnull⟩
    · rw [hnone] at hlisted
      exact .inr (Option.some.inj hlisted).symm
    · exact .inl (hnull failure hlisted)

theorem exifGps_some {assertions : List Json} (h : exifGps R assertions = some (some gps)) :
    ∃ assertion ∈ assertions, isExifAssertion assertion = some true ∧
      ∃ data, assertion.get? "data" = some data ∧ assertionGps R data = some gps := by
  induction assertions with
  | nil => cases h
  | cons assertion rest ih =>
    rw [exifGps] at h
    split at h
    · cases h
    · next exif hexif =>
      split at h
      · next found hfound =>
        obtain rfl : found = gps := Option.some.inj (Option.some.inj h)
        cases exif with
        | false => cases hfound
        | true =>
          obtain ⟨data, hdata, hgps⟩ := Option.bind_eq_some_iff.mp hfound
          obtain ⟨hget, -⟩ := Option.filter_eq_some_iff.mp hdata
          exact ⟨assertion, List.mem_cons_self, hexif, data, hget, hgps⟩
      · obtain ⟨found, hmem, hrest⟩ := ih h
        exact ⟨found, List.mem_cons_of_mem _ hmem, hrest⟩

theorem parseActiveManifest_some (h : parseActiveManifest R report = some (some active)) :
    ∃ manifests label name, report.get? "manifests" = some manifests ∧
      report.get? "active_manifest" = some label ∧ stringOf R.text label = some name ∧
      memberOf R manifests name = some active := by
  unfold parseActiveManifest at h
  split at h
  · next manifests label hmanifests hlabel =>
    obtain ⟨name, hname, hactive⟩ := Option.map_eq_some_iff.mp h
    obtain ⟨hmember, -⟩ := Option.filter_eq_some_iff.mp hactive
    exact ⟨manifests, label, name, (Option.filter_eq_some_iff.mp hmanifests).1,
      (Option.filter_eq_some_iff.mp hlabel).1, hname, hmember⟩
  · cases h

theorem ownProperty_of_memberOf {manifests found : Json} {member : String}
    (h : memberOf R manifests name = some active) (hget : active.get? member = some found) :
    manifests.ownProperty R.text name = some active := by
  unfold memberOf at h
  split at h
  · next own hown => rw [hown, Option.some.inj h]
  · split at h
    · cases h
      cases hget
    · cases h

theorem exifPosition_of_extract (hactive : parseActiveManifest R report = some (some active))
    (h : extractC2paGps R (buildManifest active).assertions = some (some gps)) :
    ExifPosition R report gps := by
  unfold extractC2paGps at h
  split at h
  · cases h
  · next assertions hassertions =>
    obtain ⟨hget, -⟩ := Option.filter_eq_some_iff.mp hassertions
    obtain ⟨assertion, hmem, hexif, data, hdata, hgps⟩ := exifGps_some h
    obtain ⟨manifests, label, name, hmanifests, hlabel, hname, hmember⟩ :=
      parseActiveManifest_some hactive
    exact ⟨active, assertions, assertion, data, ⟨manifests, label, name, hmanifests, hlabel, hname,
      ownProperty_of_memberOf hmember hget⟩, hget, hmem, hexif, hdata, hgps⟩
  · cases h

theorem validateReport_manifest (h : validateReport R report = some result)
    (hmanifest : result.hasManifest = true) :
    ∃ active, parseActiveManifest R report = some (some active) ∧
      evaluateSignature report = some result.signatureValid ∧
      extractC2paGps R (buildManifest active).assertions = some result.gps := by
  unfold validateReport at h
  obtain ⟨parsed, hparsed, h⟩ := Option.bind_eq_some_iff.mp h
  cases parsed with
  | none =>
    cases h
    cases hmanifest
  | some active =>
    simp only [Option.bind_eq_bind, Option.bind_eq_some_iff] at h
    obtain ⟨signatureValid, hsignature, generator, -, signer, -, signed, -, gps, hgps, h⟩ := h
    cases h
    exact ⟨active, hparsed, hsignature, hgps⟩

theorem validateC2pa_manifest {run : C2paRun} (h : validateC2pa R filename run = some result)
    (hmanifest : result.hasManifest = true) :
    ∃ stdout report, run = .printed stdout ∧ Json.parse R.text stdout = some report ∧
      validateReport R report = some result := by
  unfold validateC2pa at h
  split at h
  · obtain rfl := Option.some.inj h
    cases hmanifest
  · split at h
    · obtain rfl := Option.some.inj h
      cases hmanifest
    · obtain ⟨outcome, houtcome, h⟩ := Option.bind_eq_some_iff.mp h
      split at h
      · obtain rfl := Option.some.inj h
        cases hmanifest
      · next report hreport =>
        obtain ⟨hreport, -⟩ := Option.filter_eq_some_iff.mp hreport
        unfold runC2paTool at houtcome
        split at houtcome
        · cases houtcome
        · split at houtcome <;> obtain rfl := Option.some.inj houtcome <;> cases hreport
        · next stdout =>
          split at houtcome
          · next parsed hparsed =>
            obtain rfl := Option.some.inj houtcome
            obtain rfl := Option.some.inj hreport
            exact ⟨stdout, parsed, rfl, hparsed, h⟩
          · obtain rfl := Option.some.inj houtcome
            cases hreport

/-! ## The binding -/

theorem manifestFailures_nil (h : manifestFailures c2pa = []) :
    c2pa.available = true ∧ c2pa.hasManifest = true ∧ c2pa.signatureValid = true := by
  unfold manifestFailures at h
  split at h
  · cases h
  · next havailable =>
    split at h
    · cases h
    · next hmanifest =>
      split at h
      · cases h
      · next hsignature =>
        exact ⟨by simpa using havailable, by simpa using hmanifest, by simpa using hsignature⟩

theorem proximity_near {label : String}
    (h : (evaluateC2paGpsProximity R gps (some expected) maxGpsDist label).failures = []) :
    (R.haversineKm gps expected).le maxGpsDist = true := by
  unfold evaluateC2paGpsProximity at h
  dsimp only at h
  split at h
  · next hnear => exact hnear
  · cases h

theorem boundTo_of_binding (h : (verifyC2paGpsBinding R c2pa expected maxGpsDist).failures = []) :
    BoundTo R expected maxGpsDist c2pa := by
  unfold verifyC2paGpsBinding at h
  split at h
  · cases h
  · dsimp only at h
    split at h
    · simp at h
    · next gps hgps =>
      split at h
      · next hfailures =>
        dsimp only at h
        simp [h] at hfailures
      · next hfailures =>
        obtain ⟨havailable, hmanifest, hsignature⟩ :=
          manifestFailures_nil (by simpa using hfailures)
        split at h
        · next hnear =>
          exact ⟨havailable, hmanifest, hsignature, gps, hgps,
            proximity_near (List.isEmpty_iff.mp hnear)⟩
        · next hfar => exact absurd h (by simpa using hfar)

theorem boundTo_of_record {metadata : IntegrityMetadata}
    (h : (checkRecord R (some expected) maxGpsDist metadata).failures = []) :
    BoundTo R expected maxGpsDist metadata.c2pa := by
  unfold checkRecord at h
  simp only [failures_append, List.append_eq_nil_iff] at h
  exact boundTo_of_binding h.1.1

/-! ## The verdict -/

/-- Where the result comes from: the store, or a run of `c2patool` on the bytes of an attachment. A
fresh one rests on the report: its signature is the one of the active manifest, and so is its
position. -/
def Grounded (R : C2paTools) (world : PhotoWorld) (store : IntegrityStore)
    (attachments : List AttachmentRef) : Examined → Prop
  | .record metadata => ∃ id, store.get id = some metadata
  | .fetched position att bytes result =>
    attachments[position]? = some att ∧ world.fetchAttachmentData position att = .data bytes ∧
    ∃ stdout report, world.c2patool position bytes = .printed stdout ∧
      Json.parse R.text stdout = some report ∧ SignedReport report ∧
      ∃ gps, result.gps = some gps ∧ ExifPosition R report gps

theorem grounded_of_computed {world : PhotoWorld} {store : IntegrityStore}
    {attachments : List AttachmentRef} {x : Examined}
    (hcomputed : Computed R world attachments 0 x)
    (hbound : BoundTo R expected maxGpsDist x.result) : Grounded R world store attachments x := by
  cases x with
  | record => exact absurd hcomputed id
  | fetched position att bytes result =>
    obtain ⟨⟨i, hi, hatt⟩, -, hfetch, hvalidate⟩ := hcomputed
    obtain rfl : position = i := by omega
    obtain ⟨stdout, report, hrun, hparse, hreport⟩ :=
      validateC2pa_manifest hvalidate hbound.hasManifest
    obtain ⟨active, hactive, hsignature, hgps⟩ := validateReport_manifest hreport hbound.hasManifest
    obtain ⟨gps, hsome, -⟩ := hbound.near
    -- `hsignature` speaks about the field, which is true here
    have hvalid : result.signatureValid = true := hbound.signatureValid
    have hposition : result.gps = some gps := hsome
    rw [hvalid] at hsignature
    rw [hposition] at hgps
    exact ⟨hatt, hfetch, stdout, report, hrun, hparse,
      signedReport_of_evaluateSignature hsignature, gps, hposition,
      exifPosition_of_extract hactive hgps⟩

theorem expectedGps_of_payload {payload : Json} {c2pa : C2paImageRequirement}
    (h : readC2paImageRequirement R payload = some c2pa)
    (hgps : payload.get? "expected_gps" ≠ none) :
    ∃ expected, c2pa.expectedGps = some expected := by
  unfold readC2paImageRequirement at h
  split at h
  · simp only [Option.bind_eq_bind, Option.bind_eq_some_iff] at h
    obtain ⟨found, hfound, limit, -, h⟩ := h
    cases h
    unfold optionalMember at hfound
    split at hfound
    · next hnone => exact absurd hnone hgps
    · obtain ⟨expected, -, rfl⟩ := Option.map_eq_some_iff.mp hfound
      exact ⟨expected, rfl⟩
  · cases h

/--
For every requirement with `expected_gps`, every submission, store, fetch result and run of
`c2patool`: if the verification passes, the requirement could be read, at least one C2PA result was
looked at, and each of them is available, has a manifest and a valid signature, and a position at
most the configured distance from the expected one. Each is a stored record, or was computed from
the bytes of an attachment; then the report lists `claimSignature.validated` and no failure for the
active manifest, and the position stands in an exif assertion of that manifest.
-/
theorem gps_binding_fails_closed {world : PhotoWorld} {store : IntegrityStore}
    {requirement : VerificationRequirement} {input : VerificationInput} {payload : Json}
    {detail : VerificationDetail} {examined : List Examined}
    (hpayload : requirement.schemaRequirement = some payload)
    (hgps : payload.get? "expected_gps" ≠ none)
    (h : verifyC2paImage R world store requirement input = some (detail, examined))
    (hpassed : detail.passed = true) :
    ∃ c2pa expected, readC2paImageRequirement R payload = some c2pa ∧
      c2pa.expectedGps = some expected ∧ examined ≠ [] ∧
      ∀ x ∈ examined, BoundTo R expected c2pa.maxGpsDist x.result ∧
        Grounded R world store input.attachments x := by
  unfold verifyC2paImage at h
  split at h
  · cases h
  · obtain ⟨done, hdone, heq⟩ := Option.map_eq_some_iff.mp h
    cases heq
    have hclean : done.findings.failures = [] := by
      have hall := List.isEmpty_iff.mp hpassed
      rw [failures_append, List.append_eq_nil_iff] at hall
      exact hall.2
    obtain ⟨c2pa, hc2pa, hcases⟩ := runPhotoIntegrityCheck_clean hdone hclean
    have hread : readC2paImageRequirement R payload = some c2pa := by
      rw [hpayload, resolveC2paRequirement] at hc2pa
      split at hc2pa
      · next found hfound =>
        cases hc2pa
        exact hfound
      · cases hc2pa
    obtain ⟨expected, hexpected⟩ := expectedGps_of_payload hread hgps
    refine ⟨c2pa, expected, hread, hexpected, ?_⟩
    rw [hexpected] at hcases
    rcases hcases with ⟨hrecords, hexamined, hpass⟩ | ⟨-, hexamined, loop, hloop, hnone, hsame⟩
    · rw [hexamined]
      refine ⟨by simpa using hrecords, fun x hx => ?_⟩
      obtain ⟨metadata, hmem, rfl⟩ := List.mem_map.mp hx
      exact ⟨boundTo_of_record (hpass metadata hmem), mem_integrityRecords hmem⟩
    · refine ⟨hexamined, fun x hx => ?_⟩
      rw [← hsame] at hx
      obtain ⟨hcomputed, hfailures⟩ := examineAttachments_examined hloop x hx
      have hbound := boundTo_of_binding (hfailures hnone)
      exact ⟨hbound, grounded_of_computed hcomputed hbound⟩

/-! ## A verification that passes -/

/-- Numbers are kept exactly, and the earth is flat, with 111 km to a degree. -/
def plainTools : C2paTools where
  text := .safeIntegers
  round q := .fin q
  haversineKm a b :=
    match a.lat.sub b.lat, a.lon.sub b.lon with
    | .fin dlat, .fin dlon => .fin ((|dlat| + |dlon|) * 111)
    | _, _ => .nan
  hidden _ _ := false
  toolPath := some "c2patool"

def photoReport : Json :=
  .obj [("active_manifest", .str "m"),
    ("manifests", .obj [("m", .obj [("assertions", .arr [.obj [("label", .str "stds.exif"),
      ("data", .obj [("EXIF:GPSLatitude", .str "35.7"),
        ("EXIF:GPSLongitude", .str "139.7")])]])])]),
    ("validation_results", .obj [("activeManifest", .obj [
      ("success", .arr [.obj [("code", .str "claimSignature.validated")]]),
      ("failure", .arr [])])])]

/-- The tool prints it. -/
def photoWorld : PhotoWorld where
  fetchAttachmentData _ _ := .data [0xff, 0xd8]
  c2patool _ _ := .printed (photoReport.stringify .safeIntegers)

/-- The position is expected nearby. -/
def photoPayload : Json :=
  .obj [("expected_gps", .obj [("lat", .num (.ofInt 35)), ("lon", .num (.ofInt 139))]),
    ("max_gps_distance_km", .num (.ofInt 200))]

/-- A requirement with this payload. -/
def photoRequirement : VerificationRequirement where
  id := "r"
  schema := some c2paImageV1
  schemaRequirement := some photoPayload

/-- One photo. -/
def photoInput : VerificationInput where
  attachments :=
    [{ id := "a", uri := "https://host/a", mimeType := "image/jpeg", storageKind := .external,
       filename := some "a.jpg" }]

theorem validateC2pa_printed {stdout : String} (htool : (R.toolPath.filter (· ≠ "")).isSome = true)
    (hsupported : supportedExtensions.contains (extensionOf filename) = true)
    (hparse : Json.parse R.text stdout = some report) (htruthy : report.truthy = true) :
    validateC2pa R filename (.printed stdout) = validateReport R report := by
  obtain ⟨path, hpath⟩ := Option.isSome_iff_exists.mp htool
  have hrun : runC2paTool R (.printed stdout) = some { report := some report } := by
    unfold runC2paTool
    dsimp only
    rw [hparse]
  unfold validateC2pa
  rw [hpath, hsupported, hrun]
  simp [Option.filter_some, htruthy]

theorem photo_passed :
    (verifyC2paImage plainTools photoWorld .empty photoRequirement photoInput).map (·.1.passed) =
      some true := by
  have hdoubles : photoReport.Doubles .safeIntegers := by
    simp [photoReport, Json.Doubles, Json.DoublesElems, Json.DoublesMembers]
  have hparse : Json.parse plainTools.text (photoReport.stringify .safeIntegers) =
      some photoReport := Json.parse_stringify hdoubles
  have hvalid : validateC2pa plainTools "a.jpg"
      (.printed (photoReport.stringify .safeIntegers)) = validateReport plainTools photoReport :=
    validateC2pa_printed (by decide) (by decide) hparse rfl
  -- the text is long, so the report takes the place of the call that parses it
  simp only [verifyC2paImage, runPhotoIntegrityCheck, verifyPhotoIntegrity,
    verifyC2paFromAttachments, photoInput, photoWorld, examineAttachments, Option.getD_some, hvalid]
  decide +kernel

/-- So its position is signed and near. -/
theorem gps_binding_fails_closed_photo : ∃ detail examined,
    verifyC2paImage plainTools photoWorld .empty photoRequirement photoInput =
      some (detail, examined) ∧ detail.passed = true ∧
    ∃ c2pa expected, readC2paImageRequirement plainTools photoPayload = some c2pa ∧
      c2pa.expectedGps = some expected ∧ examined ≠ [] ∧
      ∀ x ∈ examined, BoundTo plainTools expected c2pa.maxGpsDist x.result ∧
        Grounded plainTools photoWorld .empty photoInput.attachments x := by
  obtain ⟨⟨detail, examined⟩, h, hdetail⟩ := Option.map_eq_some_iff.mp photo_passed
  exact ⟨detail, examined, h, hdetail,
    gps_binding_fails_closed rfl (by simp [photoPayload, Json.get?]) h hdetail⟩

end Anchr.Proofs
