import Anchr.Proofs.Verifier

/-!
# The verifier binary

`runVerifierBinary` of `proofs/tlsn-validation.ts`: how a run of the sidecar ends, and what
`validateTlsn` makes of it. The output is a record of the type the source declares for it, which is
also what `crates/tlsn-verifier` writes; there `null` and a missing member are the same.
-/

namespace Anchr.Proofs

open Infra

/-! ## Runs of the sidecar -/

/-- The output of `tlsn-verifier verify`. -/
structure VerifierOutput where
  valid : Option Bool := none
  serverName : Option String := none
  revealedBody : Option String := none
  revealedHeaders : Option String := none
  time : Option JsNumber := none

/-- How a run ends. -/
inductive SidecarRun where
  /-- No temporary directory could be made, or it could not be removed. -/
  | rejected
  /-- The file could not be written, or the process could not be started. -/
  | threw (err : String)
  | timedOut
  /-- The exit code is not 0. -/
  | exited (stderr : String)
  /-- The exit code is 0; `none` when the output is not the text of such a record. -/
  | printed (stdout : Option VerifierOutput)

/-- The result, or `none` when the promise rejects. -/
def runVerifierBinary : SidecarRun → Option VerifierBinaryResult
  | .rejected => none
  | .threw err => some { signatureValid := false, error := some err }
  | .timedOut =>
    some { signatureValid := false, error := some "verifier timed out after 60s" }
  | .exited stderr =>
    some
      { signatureValid := false
        error := some (String.ofList (firstUnits 200 (trimmed stderr.toList))) }
  | .printed (some out) =>
    some
      { signatureValid := out.valid == some true
        verifiedServerName := out.serverName
        verifiedBody := out.revealedBody
        verifiedHeaders := out.revealedHeaders
        verifiedTime := out.time }
  | .printed none =>
    some { signatureValid := false, error := some "failed to parse verifier output" }

/-- Only an output that says so makes a signature valid. -/
theorem runVerifierBinary_valid {run : SidecarRun} {crypto : VerifierBinaryResult}
    (h : runVerifierBinary run = some crypto) (hvalid : crypto.signatureValid = true) :
    ∃ out, run = .printed (some out) ∧ out.valid = some true ∧
      crypto.verifiedServerName = out.serverName ∧ crypto.verifiedBody = out.revealedBody ∧
      crypto.verifiedTime = out.time := by
  cases run with
  | rejected => cases h
  | printed stdout =>
    cases stdout with
    | none =>
      cases h
      cases hvalid
    | some out =>
      cases h
      exact ⟨out, rfl, eq_of_beq hvalid, rfl, rfl, rfl⟩
  | threw | timedOut | exited =>
    cases h
    cases hvalid

section

variable (R : TlsnTools)

/-- A verification passes with this run of the sidecar. -/
def PassesAfter (g : ReplayGuard) (v : Inspection) (requirement : VerificationRequirement)
    (input : VerificationInput) (run : SidecarRun) : Prop :=
  ∃ crypto, runVerifierBinary run = some crypto ∧ Passes R g v requirement input crypto

end

/-! ## Conditions -/

def TlsnCondition.HoldsOf (R : TlsnTools) (condition : TlsnCondition) (body : String) : Prop :=
  match condition.type with
  | .contains => condition.expression.toList <:+: body.toList
  | .regex => ∃ found, R.regExp condition.expression body = some (some found)
  | .jsonpath => ∃ value found text, Json.parse R.text body = some value ∧
      resolveDotPath R.text value condition.expression = some found ∧
      stringOf R.text found = some text ∧ ∀ expected, condition.expected = some expected →
        text = expected

variable {R : TlsnTools}

theorem evaluateRegex_passed {pattern body : String}
    (h : (evaluateRegex R pattern body).passed = true) :
    ∃ found, R.regExp pattern body = some (some found) := by
  unfold evaluateRegex at h
  split at h
  · cases h
  · split at h
    · cases h
    · split at h
      · next result hresult =>
        obtain ⟨found, rfl⟩ := Option.isSome_iff_exists.mp h
        exact ⟨found, hresult⟩
      · cases h

theorem evaluateJsonpath_passed {expression body : String} {expected : Option String}
    (h : (evaluateJsonpath R expression expected body).passed = true) :
    ∃ value found text, Json.parse R.text body = some value ∧
      resolveDotPath R.text value expression = some found ∧ stringOf R.text found = some text ∧
      ∀ e, expected = some e → text = e := by
  unfold evaluateJsonpath at h
  split at h
  · cases h
  · next value hvalue =>
    split at h
    · cases h
    · next found hfound =>
      split at h
      · cases h
      · next text htext =>
        refine ⟨value, found, text, hvalue, hfound, htext, ?_⟩
        rintro e rfl
        exact eq_of_beq h

/-- The guards of `evaluateCondition` only refuse. -/
theorem holdsOf_of_passed {condition : TlsnCondition} {body : String}
    (h : (evaluateCondition R condition body).passed = true) : condition.HoldsOf R body := by
  unfold evaluateCondition at h
  unfold TlsnCondition.HoldsOf
  cases htype : condition.type with
  | contains =>
    rw [htype] at h
    dsimp only at h
    split at h
    · next hinfix => exact hinfix
    · cases h
  | regex =>
    rw [htype] at h
    exact evaluateRegex_passed h
  | jsonpath =>
    rw [htype] at h
    exact evaluateJsonpath_passed h

end Anchr.Proofs
