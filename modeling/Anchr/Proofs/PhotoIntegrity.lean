import Anchr.Proofs.Contract
import Anchr.Proofs.IntegrityStore
import Anchr.Proofs.TlsnValidation

/-!
# The photo integrity check

`proofs/verification/checks/photo-integrity.ts` and `checks/empty-submission.ts`, and `verifyProof`
under the c2pa-image schema, whose bundle runs these two checks one after the other.

An image is judged by a record of the integrity store or by running `c2patool` on its bytes. Which
of them a verification has looked at is part of what the functions return here (`Examined`); the
source returns the findings only.
-/

namespace Anchr.Proofs

open Infra Requests

instance : Append Findings where
  append a b := { checks := a.checks ++ b.checks, failures := a.failures ++ b.failures }

@[simp] theorem failures_append (a b : Findings) : (a ++ b).failures = a.failures ++ b.failures :=
  rfl

inductive AttachmentDataResult where
  | data (bytes : List UInt8)
  | failed (reason : String)
  | rejected

/-- What happens outside during a verification, by the position of the attachment. -/
structure PhotoWorld where
  fetchAttachmentData : Nat → AttachmentRef → AttachmentDataResult
  /-- A run of `c2patool` on the bytes. -/
  c2patool : Nat → List UInt8 → C2paRun

/-- What the check has looked at. -/
inductive Examined where
  | record (metadata : IntegrityMetadata)
  /-- Computed for the attachment at this position, from its bytes. -/
  | fetched (position : Nat) (att : AttachmentRef) (bytes : List UInt8)
      (result : C2paValidationResult)

/-- The result it was judged by. -/
def Examined.result : Examined → C2paValidationResult
  | .record metadata => metadata.c2pa
  | .fetched _ _ _ result => result

variable (R : C2paTools)

/-! ## One record -/

def checkC2paSignature (c2pa : C2paValidationResult) : Findings :=
  if !c2pa.available then
    { failures := ["C2PA: c2patool not available — cannot verify Content Credentials"] }
  else if !c2pa.hasManifest then
    { failures := ["C2PA: no Content Credentials found — use a C2PA-enabled camera"] }
  else if c2pa.signatureValid then { checks := ["C2PA: valid Content Credentials signature"] }
  else { failures := ["C2PA: Content Credentials signature invalid"] }

def GpsProximity.findings (p : GpsProximity) : Findings where
  checks := p.checks
  failures := p.failures

def checkC2paGpsBinding (c2pa : C2paValidationResult) (expectedGps : Option GpsCoord)
    (maxGpsDist : JsNumber) : Findings :=
  match expectedGps with
  | none =>
    checkC2paSignature c2pa ++
      match c2pa.gps with
      | some gps => (evaluateC2paGpsProximity R gps none maxGpsDist "C2PA").findings
      | none => {}
  | some expected =>
    let binding := verifyC2paGpsBinding R c2pa expected maxGpsDist
    { checks := binding.checks, failures := binding.failures }

def checkProofModeRecord (proofmode : Option ProofModeIntegrity) (expectedGps : Option GpsCoord)
    (maxGpsDist : JsNumber) : Findings :=
  match proofmode with
  | none => {}
  | some record =>
    let found : Findings := { checks := record.checks, failures := record.failures }
    match record.proof, expectedGps with
    | some gps, some expected =>
      if !gps.lat.strictEq (.ofInt 0) || !gps.lon.strictEq (.ofInt 0) then
        found ++ (evaluateC2paGpsProximity R gps expected maxGpsDist "ProofMode").findings
      else found
    | _, _ => found

def checkExifRecord (exif : ExifValidationResult) : Findings :=
  if !exif.hasExif then { checks := ["EXIF: no metadata (stripped by provider for privacy)"] }
  else
    let camera := " ".intercalate ((exif.make.toList ++ exif.model.toList).filter (· ≠ ""))
    let found : Findings :=
      { checks :=
          (if exif.hasCameraModel then ["EXIF: camera identified (" ++ camera ++ ")"]
            else ["EXIF: present but no camera model (screenshot or processed image)"]) ++
          (if exif.hasTimestamp then
            [if exif.timestampRecent then "EXIF: timestamp is recent"
              else "EXIF: timestamp is not recent (older photo)"]
            else []) }
    if !exif.hasGps then found
    else
      found ++ { checks := ["EXIF: GPS coordinates present"] } ++
        match exif.gpsNearHint with
        | some true => { checks := ["EXIF: GPS matches location hint"] }
        | some false => { failures := ["EXIF: GPS coordinates far from expected location"] }
        | none => {}

def checkRecord (expectedGps : Option GpsCoord) (maxGpsDist : JsNumber)
    (metadata : IntegrityMetadata) : Findings :=
  checkC2paGpsBinding R metadata.c2pa expectedGps maxGpsDist ++
    checkProofModeRecord R metadata.proofmode expectedGps maxGpsDist ++
    checkExifRecord metadata.exif

/-! ## All attachments -/

/-- `att.mime_type?.startsWith("image/")`. -/
def isImage (att : AttachmentRef) : Bool := "image/".toList.isPrefixOf att.mimeType.toList

/-- What the loops have found so far, and what they have looked at. -/
structure Examination where
  findings : Findings := {}
  examined : List Examined := []

def examineRecords (expectedGps : Option GpsCoord) (maxGpsDist : JsNumber) :
    List IntegrityMetadata → Examination
  | [] => {}
  | metadata :: rest =>
    let later := examineRecords expectedGps maxGpsDist rest
    { findings := checkRecord R expectedGps maxGpsDist metadata ++ later.findings
      examined := .record metadata :: later.examined }

/-- The loop over the attachments, from the one at `position` on; `none` when something rejects. -/
def examineAttachments (world : PhotoWorld) (expectedGps : Option GpsCoord)
    (maxGpsDist : JsNumber) : Nat → List AttachmentRef → Option Examination
  | _, [] => some {}
  | position, att :: rest =>
    if !isImage att then examineAttachments world expectedGps maxGpsDist (position + 1) rest
    else
      match world.fetchAttachmentData position att with
      | .rejected => none
      | .failed reason =>
        (examineAttachments world expectedGps maxGpsDist (position + 1) rest).map fun later =>
          { later with findings := { failures := ["C2PA: " ++ reason] } ++ later.findings }
      | .data bytes =>
        (validateC2pa R (att.filename.getD att.id) (world.c2patool position bytes)).bind
          fun c2pa =>
            (examineAttachments world expectedGps maxGpsDist (position + 1) rest).map fun later =>
              { findings := checkC2paGpsBinding R c2pa expectedGps maxGpsDist ++ later.findings
                examined := .fetched position att bytes c2pa :: later.examined }

def verifyC2paFromAttachments (world : PhotoWorld) (expectedGps : Option GpsCoord)
    (maxGpsDist : JsNumber) (requiresC2pa : Bool) (attachments : List AttachmentRef) :
    Option Examination :=
  if attachments.isEmpty then some {}
  else
    (examineAttachments R world expectedGps maxGpsDist 0 attachments).map fun done =>
      if !done.examined.isEmpty then done
      else if attachments.any isImage then
        { done with findings := done.findings ++
            { failures := ["C2PA: no image attachments could be verified"] } }
      else if requiresC2pa then
        { done with findings := done.findings ++
            { failures :=
                ["C2PA: required Content Credentials evidence missing — no image submitted"] } }
      else done

/-- The records that count: those of the attachments, or else those of the request. -/
def integrityRecords (store : IntegrityStore) (requirementId : String)
    (attachments : List AttachmentRef) : List IntegrityMetadata :=
  let byAttachment := attachments.filterMap fun att => store.get att.id
  if byAttachment.isEmpty then store.getForRequest requirementId else byAttachment

/-- Which records count, and the bytes if there are none. -/
def verifyPhotoIntegrity (world : PhotoWorld) (store : IntegrityStore) (requirementId : String)
    (attachments : List AttachmentRef) (expectedGps : Option GpsCoord) (maxGpsDist : JsNumber)
    (requiresC2pa : Bool) : Option Examination :=
  let records := integrityRecords store requirementId attachments
  if records.isEmpty then
    verifyC2paFromAttachments R world expectedGps maxGpsDist requiresC2pa attachments
  else some (examineRecords R expectedGps maxGpsDist records)

/-! ## The check -/

def resolveC2paRequirement (payload : Option Json) : Except String C2paImageRequirement :=
  match payload with
  | none => .ok {}
  | some payload =>
    match readC2paImageRequirement R payload with
    | some requirement => .ok requirement
    | none => .error "C2PA image: query missing or invalid schema_requirement"

def resolveC2paEvidence (payload : Option Json) : Except String C2paImageEvidence :=
  match payload with
  | none => .ok {}
  | some payload =>
    match readC2paImageEvidence R payload with
    | some evidence => .ok evidence
    | none => .error "C2PA image: invalid schema_evidence"

/-- The limit, or the default. -/
def C2paImageRequirement.maxGpsDist (requirement : C2paImageRequirement) : JsNumber :=
  requirement.maxGpsDistanceKm.getD defaultC2paMaxGpsDistanceKm

def checkSchemaEvidenceGps (requirement : C2paImageRequirement) (evidence : C2paImageEvidence) :
    Findings :=
  match evidence.gps with
  | some gps =>
    (evaluateC2paGpsProximity R gps requirement.expectedGps requirement.maxGpsDist
      "C2PA schema_evidence").findings
  | none => {}

def errorOf {α : Type} : Except String α → List String
  | .error failure => [failure]
  | .ok _ => []

/-- What `run` of `createPhotoIntegrityCheck` adds; `none` when it rejects. -/
def runPhotoIntegrityCheck (world : PhotoWorld) (store : IntegrityStore)
    (requirement : VerificationRequirement) (input : VerificationInput) : Option Examination :=
  let c2paRequirement := resolveC2paRequirement R requirement.schemaRequirement
  let c2paEvidence := resolveC2paEvidence R input.schemaEvidence
  match c2paRequirement, c2paEvidence with
  | .ok c2pa, .ok evidence =>
    let gps := checkSchemaEvidenceGps R c2pa evidence
    if input.attachments.isEmpty then
      some
        { findings := gps ++
            { failures :=
                ["C2PA: required Content Credentials evidence missing — no image submitted"] } }
    else
      (verifyPhotoIntegrity R world store requirement.id input.attachments c2pa.expectedGps
        c2pa.maxGpsDist true).map fun done =>
          { done with findings := gps ++ { checks := ["attachment present"] } ++ done.findings }
  | _, _ => some { findings := { failures := errorOf c2paRequirement ++ errorOf c2paEvidence } }

def runEmptySubmissionCheck (input : VerificationInput) : Findings :=
  if input.attachments.isEmpty then
    { failures := ["no media evidence provided — photos are required when photo-backed " ++
        "verification is enabled"] }
  else {}

/-- `ProofSchema.C2paImageV1`. -/
def c2paImageV1 : String := "https://anchr-spec.org/spec/proof/c2pa-image/v1"

/-- `verifyProof` under the c2pa-image schema, with what it has looked at; `none` when it rejects,
and under another schema. -/
def verifyC2paImage (world : PhotoWorld) (store : IntegrityStore)
    (requirement : VerificationRequirement) (input : VerificationInput) :
    Option (VerificationDetail × List Examined) :=
  if requirement.schema ≠ some c2paImageV1 then none
  else
    (runPhotoIntegrityCheck R world store requirement input).map fun done =>
      let found := runEmptySubmissionCheck input ++ done.findings
      ({ passed := found.failures.isEmpty, checks := found.checks, failures := found.failures },
        done.examined)

/-! ## The records -/

variable {attachments : List AttachmentRef} {store : IntegrityStore} {done : Examination}

theorem mem_integrityRecords {requirementId : String} {metadata : IntegrityMetadata}
    (h : metadata ∈ integrityRecords store requirementId attachments) :
    ∃ id, store.get id = some metadata := by
  unfold integrityRecords at h
  dsimp only at h
  split at h
  · exact JsMap.mem_values.mp (List.mem_filter.mp h).1
  · obtain ⟨att, -, hget⟩ := List.mem_filterMap.mp h
    exact ⟨att.id, hget⟩

/-! ## What the loops have looked at -/

variable {R} {world : PhotoWorld} {expectedGps : Option GpsCoord} {maxGpsDist : JsNumber}

theorem examineRecords_examined (records : List IntegrityMetadata) :
    (examineRecords R expectedGps maxGpsDist records).examined = records.map .record := by
  induction records with
  | nil => rfl
  | cons metadata rest ih =>
    rw [examineRecords, List.map_cons, ← ih]

theorem examineRecords_failures {records : List IntegrityMetadata} :
    (examineRecords R expectedGps maxGpsDist records).findings.failures = [] ↔
      ∀ metadata ∈ records, (checkRecord R expectedGps maxGpsDist metadata).failures = [] := by
  induction records with
  | nil => simp [examineRecords]
  | cons metadata rest ih =>
    rw [examineRecords, failures_append, List.append_eq_nil_iff, ih, List.forall_mem_cons]

/-- The result was computed from the bytes that were fetched for the attachment at its position. -/
def Computed (R : C2paTools) (world : PhotoWorld) (attachments : List AttachmentRef)
    (start : Nat) : Examined → Prop
  | .record _ => False
  | .fetched position att bytes result =>
    (∃ i, position = start + i ∧ attachments[i]? = some att) ∧ isImage att = true ∧
    world.fetchAttachmentData position att = .data bytes ∧
    validateC2pa R (att.filename.getD att.id) (world.c2patool position bytes) = some result

theorem Computed.tail {start : Nat} {att : AttachmentRef} {x : Examined}
    (h : Computed R world attachments (start + 1) x) :
    Computed R world (att :: attachments) start x := by
  cases x with
  | record => exact h
  | fetched position att' bytes result =>
    obtain ⟨⟨i, hi, hget⟩, hrest⟩ := h
    exact ⟨⟨i + 1, by omega, hget⟩, hrest⟩

/-- Everything the loop over the attachments has looked at was computed, and no failure means that
nothing of it failed. -/
theorem examineAttachments_examined :
    ∀ {start : Nat} {done : Examination},
      examineAttachments R world expectedGps maxGpsDist start attachments = some done →
      ∀ x ∈ done.examined, Computed R world attachments start x ∧
        (done.findings.failures = [] →
          (checkC2paGpsBinding R x.result expectedGps maxGpsDist).failures = []) := by
  induction attachments with
  | nil =>
    intro start done h x hx
    cases h
    cases hx
  | cons att rest ih =>
    intro start done h x hx
    rw [examineAttachments] at h
    split at h
    · obtain ⟨hcomputed, hfailures⟩ := ih h x hx
      exact ⟨hcomputed.tail, hfailures⟩
    · next himage =>
      split at h
      · cases h
      · obtain ⟨later, hlater, rfl⟩ := Option.map_eq_some_iff.mp h
        obtain ⟨hcomputed, -⟩ := ih hlater x hx
        refine ⟨hcomputed.tail, fun hnone => ?_⟩
        simp at hnone
      · next bytes hfetch =>
        obtain ⟨c2pa, hc2pa, h⟩ := Option.bind_eq_some_iff.mp h
        obtain ⟨later, hlater, rfl⟩ := Option.map_eq_some_iff.mp h
        rcases List.mem_cons.mp hx with rfl | hx
        · refine ⟨⟨⟨0, rfl, rfl⟩, by simpa using himage, hfetch, hc2pa⟩, fun hnone => ?_⟩
          rw [failures_append, List.append_eq_nil_iff] at hnone
          exact hnone.1
        · obtain ⟨hcomputed, hfailures⟩ := ih hlater x hx
          refine ⟨hcomputed.tail, fun hnone => hfailures ?_⟩
          rw [failures_append, List.append_eq_nil_iff] at hnone
          exact hnone.2

/-- Without a failure, every image has been looked at. -/
theorem examineAttachments_covers :
    ∀ {start : Nat} {done : Examination},
      examineAttachments R world expectedGps maxGpsDist start attachments = some done →
      done.findings.failures = [] →
      ∀ i att, attachments[i]? = some att → isImage att = true →
        ∃ bytes result, .fetched (start + i) att bytes result ∈ done.examined := by
  induction attachments with
  | nil =>
    intro start done h hnone i att hi
    cases hi
  | cons first rest ih =>
    intro start done h hnone i att hi himage
    rw [examineAttachments] at h
    split at h
    · next hother =>
      -- the first attachment is no image, so the image is a later one
      cases i with
      | zero =>
        cases hi
        simp [himage] at hother
      | succ i =>
        obtain ⟨bytes, result, hmem⟩ := ih h hnone i att hi himage
        exact ⟨bytes, result, by rwa [Nat.add_right_comm] at hmem⟩
    · split at h
      · cases h
      · obtain ⟨later, -, rfl⟩ := Option.map_eq_some_iff.mp h
        simp at hnone
      · next bytes hfetch =>
        obtain ⟨c2pa, hc2pa, h⟩ := Option.bind_eq_some_iff.mp h
        obtain ⟨later, hlater, rfl⟩ := Option.map_eq_some_iff.mp h
        cases i with
        | zero =>
          cases hi
          exact ⟨bytes, c2pa, List.mem_cons_self⟩
        | succ i =>
          rw [failures_append, List.append_eq_nil_iff] at hnone
          obtain ⟨bytes', result, hmem⟩ := ih hlater hnone.2 i att hi himage
          rw [Nat.add_right_comm] at hmem
          exact ⟨bytes', result, List.mem_cons_of_mem _ hmem⟩

theorem verifyC2paFromAttachments_clean
    (h : verifyC2paFromAttachments R world expectedGps maxGpsDist true attachments = some done)
    (hsubmitted : attachments ≠ []) (hnone : done.findings.failures = []) :
    examineAttachments R world expectedGps maxGpsDist 0 attachments = some done ∧
      done.examined ≠ [] := by
  unfold verifyC2paFromAttachments at h
  rw [if_neg (by simpa using hsubmitted)] at h
  obtain ⟨loop, hloop, rfl⟩ := Option.map_eq_some_iff.mp h
  by_cases hexamined : loop.examined = []
  · -- whether there was an image or not, this is a failure
    simp only [hexamined, List.isEmpty_nil, Bool.not_true, Bool.false_eq_true, if_false,
      if_true] at hnone
    split at hnone <;> simp at hnone
  · have hkeep : (!loop.examined.isEmpty) = true := by simpa using hexamined
    simp only [hkeep, if_true]
    exact ⟨hloop, hexamined⟩

/-- What a check has done that reports no failure: it has looked at records, all of which passed,
or there were none and it has looked at images. -/
theorem runPhotoIntegrityCheck_clean {requirement : VerificationRequirement}
    {input : VerificationInput}
    (h : runPhotoIntegrityCheck R world store requirement input = some done)
    (hnone : done.findings.failures = []) :
    ∃ c2pa, resolveC2paRequirement R requirement.schemaRequirement = .ok c2pa ∧
      ((integrityRecords store requirement.id input.attachments ≠ [] ∧
        done.examined =
          (integrityRecords store requirement.id input.attachments).map .record ∧
        ∀ metadata ∈ integrityRecords store requirement.id input.attachments,
          (checkRecord R c2pa.expectedGps c2pa.maxGpsDist metadata).failures = []) ∨
      (integrityRecords store requirement.id input.attachments = [] ∧ done.examined ≠ [] ∧
        ∃ loop, examineAttachments R world c2pa.expectedGps c2pa.maxGpsDist 0 input.attachments =
            some loop ∧ loop.findings.failures = [] ∧ loop.examined = done.examined)) := by
  unfold runPhotoIntegrityCheck at h
  dsimp only at h
  split at h
  · next c2pa evidence hc2pa hevidence =>
    refine ⟨c2pa, hc2pa, ?_⟩
    split at h
    · cases h
      simp at hnone
    · next hsubmitted =>
      obtain ⟨inner, hinner, rfl⟩ := Option.map_eq_some_iff.mp h
      have hclean : inner.findings.failures = [] := by
        simp only [failures_append, List.append_eq_nil_iff] at hnone
        exact hnone.2
      unfold verifyPhotoIntegrity at hinner
      dsimp only at hinner
      split at hinner
      · next hrecords =>
        obtain ⟨hloop, hexamined⟩ :=
          verifyC2paFromAttachments_clean hinner (by simpa using hsubmitted) hclean
        exact .inr ⟨List.isEmpty_iff.mp hrecords, hexamined, inner, hloop, hclean, rfl⟩
      · next hrecords =>
        cases hinner
        exact Or.inl ⟨by simpa using hrecords, examineRecords_examined _,
          examineRecords_failures.mp hclean⟩
  · -- one of the payloads was refused
    next hrefused =>
    cases h
    exfalso
    simp only [List.append_eq_nil_iff] at hnone
    cases hc2pa : resolveC2paRequirement R requirement.schemaRequirement with
    | error => simp [hc2pa, errorOf] at hnone
    | ok c2pa =>
      cases hevidence : resolveC2paEvidence R input.schemaEvidence with
      | error => simp [hevidence, errorOf] at hnone
      | ok evidence => exact hrefused c2pa evidence hc2pa hevidence

end Anchr.Proofs
