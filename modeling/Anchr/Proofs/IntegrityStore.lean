import Anchr.Infra.JsMap
import Anchr.Proofs.C2paValidation

/-!
# The integrity store

`createIntegrityStore` of `proofs/integrity-store.ts`: what was found out about an attachment when
it was uploaded, kept under the id of the attachment.
-/

namespace Anchr.Proofs

open Infra

/-- What is read of `ExifValidationResult`. -/
structure ExifValidationResult where
  hasExif : Bool
  hasCameraModel : Bool := false
  hasTimestamp : Bool := false
  hasGps : Bool := false
  timestampRecent : Bool := false
  gpsNearHint : Option Bool := none
  make : Option String := none
  model : Option String := none

/-- What is read of `ProofModeIntegrity`; `proof` is its position. -/
structure ProofModeIntegrity where
  proof : Option GpsCoord := none
  checks : List String := []
  failures : List String := []

structure IntegrityMetadata where
  attachmentId : String
  requestId : String
  capturedAt : JsNumber
  exif : ExifValidationResult
  c2pa : C2paValidationResult
  proofmode : Option ProofModeIntegrity := none

/-- Records are kept under their own attachment id. -/
structure IntegrityStore where
  map : JsMap String IntegrityMetadata
  keyed : ∀ id m, map.get? id = some m → m.attachmentId = id

namespace IntegrityStore

def empty : IntegrityStore := ⟨.empty, by simp⟩

def store (s : IntegrityStore) (metadata : IntegrityMetadata) : IntegrityStore where
  map := s.map.set metadata.attachmentId metadata
  keyed := by
    intro id m h
    rcases JsMap.get?_of_set h with ⟨rfl, rfl⟩ | hold
    · rfl
    · exact s.keyed id m hold

def get (s : IntegrityStore) (attachmentId : String) : Option IntegrityMetadata :=
  s.map.get? attachmentId

def getForRequest (s : IntegrityStore) (requestId : String) : List IntegrityMetadata :=
  s.map.values.filter fun m => m.requestId = requestId

end IntegrityStore

end Anchr.Proofs
