import Anchr.Proofs.Contract
import Anchr.Proofs.TlsnValidation

/-!
# The verifier under the TLSNotary schema

`verifyProof` of `proofs/verification/verifier.ts` with the TLSNotary check of
`proofs/verification/checks/tlsn.ts`, under the reference bundles and with the default validator.
Requirements of another schema are handed to checks that are not modelled here.
-/

namespace Anchr.Proofs

open Infra Requests

/-- `ProofSchema.TlsnV1`. -/
def tlsnV1 : String := "https://anchr-spec.org/spec/proof/tlsn/v1"

variable (R : TlsnTools)

/-- `resolveEvidence` of the TLSNotary bundle. -/
def resolveTlsnEvidence (proof : String) : Option Json :=
  if proof ≠ "" then some (.obj [("presentation", .str proof)]) else none

/-- The presentation in the evidence, or the failure that `verifyTlsn` reports. -/
def evidencePresentation (evidence : Option Json) : Except String String :=
  match evidence with
  | none => .error "TLSNotary: no attestation provided"
  | some evidence =>
    match readTlsnExtensionResult evidence with
    | some (some presentation) =>
      if presentation = "" then
        .error ("TLSNotary extension: no cryptographic presentation included — " ++
          "self-reported data cannot be trusted")
      else .ok presentation
    | some none =>
      .error ("TLSNotary extension: no cryptographic presentation included — " ++
        "self-reported data cannot be trusted")
    | none =>
      match readTlsnAttestation evidence with
      | some presentation => .ok presentation
      | none => .error "TLSNotary: invalid schema_evidence"

/-- What `verifyTlsn` hands to the validator. -/
def tlsnTask (requirement : VerificationRequirement) (input : VerificationInput) :
    Except String (TlsnRequirement × String) :=
  match requirement.schemaRequirement.bind readTlsnRequirement with
  | none => .error "TLSNotary: query missing or invalid schema_requirement"
  | some tlsn => (evidencePresentation input.schemaEvidence).map fun presentation =>
      (tlsn, presentation)

/-- `passed: acc.failures.length === 0`. -/
def detailOf (checks failures : List String) (verifiedData : Option TlsnVerifiedData) :
    VerificationDetail where
  passed := failures.isEmpty
  checks := checks
  failures := failures
  schemaVerdict := verifiedData.map TlsnVerifiedData.toJson

def TlsnValidationResult.detail (result : TlsnValidationResult) : VerificationDetail :=
  detailOf result.checks result.failures result.verifiedData

inductive VerifyStart where
  | done (detail : VerificationDetail)
  | running (requirement : TlsnRequirement) (presentation : String)
  | otherSchema

def beginVerifyProof (g : ReplayGuard) (now : JsNumber) (requirement : VerificationRequirement)
    (input : VerificationInput) : ReplayGuard × VerifyStart :=
  if requirement.schema ≠ some tlsnV1 then (g, .otherSchema)
  else
    match tlsnTask requirement input with
    | .error failure => (g, .done (detailOf [] [failure] none))
    | .ok (tlsn, presentation) =>
      match beginValidateTlsn R g now presentation with
      | (g', .done result) => (g', .done result.detail)
      | (g', .running) => (g', .running tlsn presentation)

def finishVerifyProof (g : ReplayGuard) (now : JsNumber) (tlsn : TlsnRequirement)
    (presentation : String) (crypto : VerifierBinaryResult) : ReplayGuard × VerificationDetail :=
  let (g', result) := finishValidateTlsn R g now presentation tlsn crypto
  (g', result.detail)

/-! ## One verification in the life of a process -/

/-- When a verification takes place, and what other verifications do to the replay guard before it
and while it waits for the sidecar. -/
structure Inspection where
  before : List ReplayGuard.Use := []
  startedAt : JsNumber
  during : List ReplayGuard.Use := []
  answeredAt : JsNumber

def Inspection.guard (v : Inspection) (g : ReplayGuard) : ReplayGuard :=
  v.before.foldl ReplayGuard.use g

/-- The verification, with the sidecar's answer; `none` under another schema. -/
def inspect (g : ReplayGuard) (v : Inspection) (requirement : VerificationRequirement)
    (input : VerificationInput) (crypto : VerifierBinaryResult) :
    ReplayGuard × Option VerificationDetail :=
  match beginVerifyProof R (v.guard g) v.startedAt requirement input with
  | (g', .done detail) => (g', some detail)
  | (g', .running tlsn presentation) =>
    let (g'', detail) := finishVerifyProof R (v.during.foldl ReplayGuard.use g') v.answeredAt tlsn
      presentation crypto
    (g'', some detail)
  | (g', .otherSchema) => (g', none)

def Passes (g : ReplayGuard) (v : Inspection) (requirement : VerificationRequirement)
    (input : VerificationInput) (crypto : VerifierBinaryResult) : Prop :=
  ∃ detail, (inspect R g v requirement input crypto).2 = some detail ∧ detail.passed = true

variable {R}

theorem passed_detail {result : TlsnValidationResult} :
    result.detail.passed = true ↔ result.failures = [] := by
  simp [TlsnValidationResult.detail, detailOf]

variable {requirement : VerificationRequirement} {input : VerificationInput}
  {crypto : VerifierBinaryResult} {v : Inspection} {g : ReplayGuard}

theorem passes_iff_map :
    Passes R g v requirement input crypto ↔
      (inspect R g v requirement input crypto).2.map VerificationDetail.passed = some true := by
  rw [Passes, Option.map_eq_some_iff]

instance (g : ReplayGuard) (v : Inspection) (requirement : VerificationRequirement)
    (input : VerificationInput) (crypto : VerifierBinaryResult) :
    Decidable (Passes R g v requirement input crypto) :=
  decidable_of_iff' _ passes_iff_map

/-- The first turn decides alone only against the presentation. -/
theorem beginValidateTlsn_cases (g : ReplayGuard) (now : JsNumber) (presentation : String) :
    ((beginValidateTlsn R g now presentation).2 = .running ∧
      g.remembers (presentationHash R presentation) now = false ∧
      R.verifierPath.any (· ≠ "") = true) ∨
    ∃ result, (beginValidateTlsn R g now presentation).2 = .done result ∧ result.failures ≠ [] ∧
      ¬(g.remembers (presentationHash R presentation) now = false ∧
        R.verifierPath.any (· ≠ "") = true) := by
  unfold beginValidateTlsn
  by_cases hremembers : g.remembers (presentationHash R presentation) now = true
  · rw [if_pos hremembers]
    exact .inr ⟨_, rfl, List.cons_ne_nil _ _, fun h => by simp [hremembers] at h⟩
  · rw [if_neg hremembers]
    split
    next hpath => exact .inr ⟨_, rfl, List.cons_ne_nil _ _, fun h => by simp [hpath] at h⟩
    next hpath => exact .inr ⟨_, rfl, List.cons_ne_nil _ _, fun h => by simp [hpath] at h⟩
    next path hne hpath =>
      refine .inl ⟨rfl, Bool.not_eq_true _ ▸ hremembers, ?_⟩
      simpa [hpath] using hne

/-- A presentation passes when the guard does not remember it, the sidecar is there, and the
sidecar's answer establishes what the requirement asks for, at the time of the answer. -/
theorem passes_iff :
    Passes R g v requirement input crypto ↔
      requirement.schema = some tlsnV1 ∧ ∃ tlsn presentation,
        tlsnTask requirement input = .ok (tlsn, presentation) ∧
        ((v.guard g).remembers (presentationHash R presentation) v.startedAt = false ∧
          R.verifierPath.any (· ≠ "") = true) ∧
        Establishes R tlsn crypto ∧ FreshAt tlsn crypto v.answeredAt := by
  unfold Passes inspect beginVerifyProof
  by_cases hschema : requirement.schema = some tlsnV1
  · rw [if_neg (not_not.mpr hschema)]
    cases htask : tlsnTask requirement input with
    | error failure => simp [detailOf]
    | ok task =>
      obtain ⟨tlsn, presentation⟩ := task
      have hcases := beginValidateTlsn_cases (R := R) (v.guard g) v.startedAt presentation
      cases hbegin : beginValidateTlsn R (v.guard g) v.startedAt presentation with
      | mk g' start =>
        rw [hbegin] at hcases
        rcases hcases with ⟨hstart, hfree⟩ | ⟨result, hstart, hfailures, hnot⟩
        · simp only at hstart
          subst hstart
          simp only [hbegin]
          constructor
          · rintro ⟨detail, hdetail, hpassed⟩
            cases hdetail
            exact ⟨hschema, tlsn, presentation, rfl, hfree,
              finish_failures_eq_nil.mp (passed_detail.mp hpassed)⟩
          · rintro ⟨-, _, _, heq, -, hestablished⟩
            cases heq
            exact ⟨_, rfl, passed_detail.mpr (finish_failures_eq_nil.mpr hestablished)⟩
        · simp only at hstart
          subst hstart
          simp only [hbegin]
          constructor
          · rintro ⟨detail, hdetail, hpassed⟩
            cases hdetail
            exact absurd (passed_detail.mp hpassed) hfailures
          · rintro ⟨-, _, _, heq, hfree, -⟩
            cases heq
            exact absurd hfree hnot
  · rw [if_pos hschema]
    simp [hschema]

/-! ## A second verification -/

section

variable (R) (requirement : VerificationRequirement) (input : VerificationInput)
  (crypto : VerifierBinaryResult)

def Forgotten (g : ReplayGuard) (v : Inspection) : Prop :=
  ∀ tlsn presentation, tlsnTask requirement input = .ok (tlsn, presentation) →
    (v.guard g).remembers (presentationHash R presentation) v.startedAt = false

def InWindow (v : Inspection) : Prop :=
  ∀ tlsn presentation, tlsnTask requirement input = .ok (tlsn, presentation) →
    FreshAt tlsn crypto v.answeredAt

end

/-- After one verification has passed, only the guard and the clock decide about the next. -/
theorem passes_iff_forgotten {g' : ReplayGuard} {v' : Inspection}
    (hfirst : Passes R g v requirement input crypto)
    (hwindow : InWindow requirement input crypto v') :
    Passes R g' v' requirement input crypto ↔ Forgotten R requirement input g' v' := by
  obtain ⟨hschema, tlsn, presentation, htask, ⟨-, hpath⟩, hestablishes, -⟩ := passes_iff.mp hfirst
  constructor
  · intro hpasses tlsn' presentation' htask'
    obtain ⟨-, tlsn'', presentation'', htask'', ⟨hfree, -⟩, -⟩ := passes_iff.mp hpasses
    rw [htask'] at htask''
    cases htask''
    exact hfree
  · intro hforgotten
    exact passes_iff.mpr ⟨hschema, tlsn, presentation, htask, ⟨hforgotten tlsn presentation htask,
      hpath⟩, hestablishes, hwindow tlsn presentation htask⟩

variable {tlsn : TlsnRequirement} {presentation : String}

theorem forgotten_iff (htask : tlsnTask requirement input = .ok (tlsn, presentation)) :
    Forgotten R requirement input g v ↔
      (v.guard g).remembers (presentationHash R presentation) v.startedAt = false := by
  refine ⟨fun h => h tlsn presentation htask, fun h tlsn' presentation' htask' => ?_⟩
  rw [htask] at htask'
  cases htask'
  exact h

theorem inWindow_iff (htask : tlsnTask requirement input = .ok (tlsn, presentation)) :
    InWindow requirement input crypto v ↔ FreshAt tlsn crypto v.answeredAt := by
  refine ⟨fun h => h tlsn presentation htask, fun h tlsn' presentation' htask' => ?_⟩
  rw [htask] at htask'
  cases htask'
  exact h

/-! ## A verifier for fixed inputs -/

def plainTlsnTools : TlsnTools where
  text := .safeIntegers
  sha256 := digestTable
    [("cA==", "cabf5ce85ab198d3fb1e44d41d82c9be6da7cf2f7ac94b6cbee59229e819057f")]
  hostname url := if url = "https://api.test/" then some "api.test" else none
  regExp _ _ := none
  verifierPath := some "tlsn-verifier"

def plainTlsn : TlsnRequirement where
  targetUrl := "https://api.test/"
  maxAttestationAgeSeconds := some (.ofInt 864000)

/-- What the sidecar says about the presentation: it was made at second 1000. -/
def plainCrypto : VerifierBinaryResult where
  signatureValid := true
  verifiedServerName := some "api.test"
  verifiedBody := some ""
  verifiedTime := some (.ofInt 1000)

def inspectionAt (seconds : Int) : Inspection where
  startedAt := .ofInt (seconds * 1000)
  answeredAt := .ofInt (seconds * 1000 + 500)

end Anchr.Proofs
