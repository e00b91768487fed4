import Anchr.Proofs.PhotoIntegrity

/-!
# Evidence for what was submitted

Every image of a submission should be judged by its own evidence: by its bytes, or by the record
that was filed for it under this very request. The check asks the store for the records of the
attachments whatever request they were filed under, leaves the images without a record alone as
soon as one attachment has one, and takes the records of the request when no attachment has one.
-/

namespace Anchr.Proofs

open Infra Requests

/-! ## Evidence -/

/-- The result belongs to this attachment: computed from the bytes that were fetched for it, or
recorded under its id for this request. -/
def OwnEvidence (R : C2paTools) (world : PhotoWorld) (requirementId : String) (i : Nat)
    (att : AttachmentRef) : Examined → Prop
  | .record metadata => metadata.attachmentId = att.id ∧ metadata.requestId = requirementId
  | .fetched position att' bytes result =>
    position = i ∧ att' = att ∧ world.fetchAttachmentData i att = .data bytes ∧
    validateC2pa R (att.filename.getD att.id) (world.c2patool i bytes) = some result

def Accepted (R : C2paTools) (requirement : VerificationRequirement) (x : Examined) : Prop :=
  ∃ c2pa, resolveC2paRequirement R requirement.schemaRequirement = .ok c2pa ∧
    (checkC2paGpsBinding R x.result c2pa.expectedGps c2pa.maxGpsDist).failures = []

/-- Every image has evidence of its own, and it passed. -/
def EvidenceBound (R : C2paTools) (world : PhotoWorld) (requirement : VerificationRequirement)
    (attachments : List AttachmentRef) (examined : List Examined) : Prop :=
  ∀ i att, attachments[i]? = some att → isImage att = true →
    ∃ x ∈ examined, OwnEvidence R world requirement.id i att x ∧ Accepted R requirement x

/-- Every image has a record of its own, filed under this request. -/
def RecordedForRequest (store : IntegrityStore) (requirementId : String)
    (attachments : List AttachmentRef) : Prop :=
  ∀ att ∈ attachments, isImage att = true →
    ∃ metadata, store.get att.id = some metadata ∧ metadata.requestId = requirementId

/-- There are no records that count. -/
def Unrecorded (store : IntegrityStore) (requirementId : String)
    (attachments : List AttachmentRef) : Prop :=
  (∀ att ∈ attachments, store.get att.id = none) ∧
  ∀ id metadata, store.get id = some metadata → metadata.requestId ≠ requirementId

/-! ## The records that count -/

variable {R : C2paTools} {world : PhotoWorld} {store : IntegrityStore} {requirementId : String}
  {attachments : List AttachmentRef}

variable {metadata : IntegrityMetadata} {requirement : VerificationRequirement}
  {c2pa : C2paImageRequirement}

theorem integrityRecords_of_get {att : AttachmentRef} (hatt : att ∈ attachments)
    (hget : store.get att.id = some metadata) :
    metadata ∈ integrityRecords store requirementId attachments := by
  have hmem : metadata ∈ attachments.filterMap fun att => store.get att.id :=
    List.mem_filterMap.mpr ⟨att, hatt, hget⟩
  unfold integrityRecords
  dsimp only
  rw [if_neg (by simpa using List.ne_nil_of_mem hmem)]
  exact hmem

theorem get_of_integrityRecords (h : metadata ∈ integrityRecords store requirementId attachments) :
    store.get metadata.attachmentId = some metadata := by
  obtain ⟨id, hid⟩ := mem_integrityRecords h
  rw [store.keyed id metadata hid]
  exact hid

theorem integrityRecords_eq_nil :
    integrityRecords store requirementId attachments = [] ↔
      Unrecorded store requirementId attachments := by
  unfold integrityRecords Unrecorded
  dsimp only
  constructor
  · intro h
    split at h
    · next hnone =>
      refine ⟨List.filterMap_eq_nil_iff.mp (List.isEmpty_iff.mp hnone), ?_⟩
      intro id metadata hget hrequest
      have hvalue : metadata ∈ store.map.values := JsMap.mem_values.mpr ⟨id, hget⟩
      have hnot := List.filter_eq_nil_iff.mp h metadata hvalue
      exact hnot (decide_eq_true hrequest)
    · next hsome => exact absurd h (by simpa using hsome)
  · rintro ⟨hnone, hother⟩
    rw [List.filterMap_eq_nil_iff.mpr hnone, if_pos List.isEmpty_nil]
    refine List.filter_eq_nil_iff.mpr fun metadata hvalue => ?_
    obtain ⟨id, hget⟩ := JsMap.mem_values.mp hvalue
    simpa using hother id metadata hget

/-! ## When the evidence is bound -/

theorem evidenceBound_of_attachments {done : Examination}
    (hc2pa : resolveC2paRequirement R requirement.schemaRequirement = .ok c2pa)
    (h : examineAttachments R world c2pa.expectedGps c2pa.maxGpsDist 0 attachments = some done)
    (hnone : done.findings.failures = []) :
    EvidenceBound R world requirement attachments done.examined := by
  intro i att hi himage
  obtain ⟨bytes, result, hmem⟩ := examineAttachments_covers h hnone i att hi himage
  obtain ⟨⟨-, -, hfetch, hvalid⟩, hpass⟩ := examineAttachments_examined h _ hmem
  rw [Nat.zero_add] at hfetch hvalid hmem
  exact ⟨_, hmem, ⟨rfl, rfl, hfetch, hvalid⟩, c2pa, hc2pa, hpass hnone⟩

theorem evidenceBound_records_iff
    (hc2pa : resolveC2paRequirement R requirement.schemaRequirement = .ok c2pa)
    (hpass : ∀ metadata ∈ integrityRecords store requirement.id attachments,
      (checkRecord R c2pa.expectedGps c2pa.maxGpsDist metadata).failures = []) :
    EvidenceBound R world requirement attachments
        ((integrityRecords store requirement.id attachments).map .record) ↔
      RecordedForRequest store requirement.id attachments := by
  constructor
  · intro hbound att hatt himage
    obtain ⟨i, hi⟩ := List.mem_iff_getElem?.mp hatt
    obtain ⟨x, hx, hown, -⟩ := hbound i att hi himage
    obtain ⟨metadata, hmem, rfl⟩ := List.mem_map.mp hx
    obtain ⟨hid, hrequest⟩ := hown
    have hget := get_of_integrityRecords hmem
    rw [hid] at hget
    exact ⟨metadata, hget, hrequest⟩
  · intro hrecorded i att hi himage
    have hatt := List.mem_of_getElem? hi
    obtain ⟨metadata, hget, hrequest⟩ := hrecorded att hatt himage
    have hmem : metadata ∈ integrityRecords store requirement.id attachments :=
      integrityRecords_of_get hatt hget
    have hchecked := hpass metadata hmem
    unfold checkRecord at hchecked
    simp only [failures_append, List.append_eq_nil_iff] at hchecked
    exact ⟨.record metadata, List.mem_map_of_mem hmem, ⟨store.keyed _ _ hget, hrequest⟩, c2pa,
      hc2pa, hchecked.1.1⟩

/--
For every requirement, submission and store, and whatever fetching and `c2patool` bring: where the
photo-integrity check adds no failure, every image was validated by evidence of its own if and only
if every image has a record in the store that was filed for this request, or no attachment has a
record and none was filed for this request.
-/
theorem evidence_bound_iff {requirement : VerificationRequirement} {input : VerificationInput}
    {done : Examination} (h : runPhotoIntegrityCheck R world store requirement input = some done)
    (hnone : done.findings.failures = []) :
    EvidenceBound R world requirement input.attachments done.examined ↔
      RecordedForRequest store requirement.id input.attachments ∨
        Unrecorded store requirement.id input.attachments := by
  obtain ⟨c2pa, hc2pa, hcases⟩ := runPhotoIntegrityCheck_clean h hnone
  rcases hcases with ⟨hrecords, hexamined, hpass⟩ | ⟨hrecords, -, loop, hloop, hclean, hsame⟩
  · rw [hexamined, evidenceBound_records_iff hc2pa hpass]
    have hrecorded : ¬Unrecorded store requirement.id input.attachments :=
      fun hun => hrecords (integrityRecords_eq_nil.mpr hun)
    exact ⟨.inl, fun hor => hor.resolve_right hrecorded⟩
  · rw [← hsame]
    exact ⟨fun _ => .inr (integrityRecords_eq_nil.mp hrecords),
      fun _ => evidenceBound_of_attachments hc2pa hloop hclean⟩

/-! ## A record that is used again -/

def uploaded (id requestId : String) : IntegrityMetadata where
  attachmentId := id
  requestId := requestId
  capturedAt := .ofInt 1000
  exif := { hasExif := false }
  c2pa := { available := true, hasManifest := true, signatureValid := true }

/-- It was uploaded for the first request. -/
def uploadStore : IntegrityStore := IntegrityStore.empty.store (uploaded "photo" "first")

/-- The tool is there, and finds no manifest in any file. -/
def unsignedTools : C2paTools where
  text := .safeIntegers
  round q := .fin q
  haversineKm _ _ := .ofInt 0
  hidden _ _ := false
  toolPath := some "c2patool"

/-- The bytes themselves are not signed. -/
def unsignedWorld : PhotoWorld where
  fetchAttachmentData _ _ := .data [0xff, 0xd8]
  c2patool _ _ := .exited "Error: No claim found"

def imageRequirement (id : String) : VerificationRequirement where
  id := id
  schema := some c2paImageV1

/-- An attachment. -/
def image (id : String) : AttachmentRef where
  id := id
  uri := "https://host/" ++ id
  mimeType := "image/jpeg"
  storageKind := .external
  filename := some "photo.jpg"

/-- The request it was uploaded for. -/
theorem evidence_bound_first : ∃ done,
    runPhotoIntegrityCheck unsignedTools unsignedWorld uploadStore (imageRequirement "first")
      { attachments := [image "photo"] } = some done ∧ done.findings.failures = [] ∧
    EvidenceBound unsignedTools unsignedWorld (imageRequirement "first") [image "photo"]
      done.examined := by
  have hclean : ∃ done, runPhotoIntegrityCheck unsignedTools unsignedWorld uploadStore
      (imageRequirement "first") { attachments := [image "photo"] } = some done ∧
      done.findings.failures = [] := ⟨_, rfl, by decide⟩
  obtain ⟨done, hdone, hnone⟩ := hclean
  refine ⟨done, hdone, hnone, (evidence_bound_iff hdone hnone).mpr (.inl fun att hatt _ => ?_)⟩
  obtain rfl := List.mem_singleton.mp hatt
  exact ⟨uploaded "photo" "first", rfl, rfl⟩

/-- The record of the first request passes an unsigned image under the same id for the second; an
unsigned image beside a recorded one is not looked at; and the record of an image that was not
submitted passes the one that was. -/
theorem evidence_not_bound :
    (∃ done, runPhotoIntegrityCheck unsignedTools unsignedWorld uploadStore
        (imageRequirement "second") { attachments := [image "photo"] } = some done ∧
      done.findings.failures = [] ∧ ¬EvidenceBound unsignedTools unsignedWorld
        (imageRequirement "second") [image "photo"] done.examined) ∧
    (∃ done, runPhotoIntegrityCheck unsignedTools unsignedWorld uploadStore
        (imageRequirement "first") { attachments := [image "photo", image "other"] } = some done ∧
      done.findings.failures = [] ∧ ¬EvidenceBound unsignedTools unsignedWorld
        (imageRequirement "first") [image "photo", image "other"] done.examined) ∧
    (∃ done, runPhotoIntegrityCheck unsignedTools unsignedWorld uploadStore
        (imageRequirement "first") { attachments := [image "other"] } = some done ∧
      done.findings.failures = [] ∧ ¬EvidenceBound unsignedTools unsignedWorld
        (imageRequirement "first") [image "other"] done.examined) := by
  refine ⟨⟨_, rfl, by decide, ?_⟩, ⟨_, rfl, by decide, ?_⟩,
    ⟨_, rfl, by decide, ?_⟩⟩
  · intro hbound
    obtain ⟨x, hx, hown, -⟩ := hbound 0 (image "photo") rfl (by decide)
    obtain rfl : x = .record (uploaded "photo" "first") := List.mem_singleton.mp hx
    exact absurd hown.2 (by decide)
  · intro hbound
    obtain ⟨x, hx, hown, -⟩ := hbound 1 (image "other") rfl (by decide)
    obtain rfl : x = .record (uploaded "photo" "first") := List.mem_singleton.mp hx
    exact absurd hown.1 (by decide)
  · intro hbound
    obtain ⟨x, hx, hown, -⟩ := hbound 0 (image "other") rfl (by decide)
    obtain rfl : x = .record (uploaded "photo" "first") := List.mem_singleton.mp hx
    exact absurd hown.1 (by decide)

end Anchr.Proofs
