import Anchr.Infra.Machine
import Anchr.Proofs.VerifierBinary

/-!
# Validations in one process

Any number of `validateTlsn` calls share the replay guard of the module. A call is suspended once,
at its sidecar, and other calls may begin and end meanwhile. `Date.now()` is a whole number, and is
read once in each turn.
-/

namespace Anchr.Proofs

open Infra

/-- A call at its sidecar. -/
structure Validation where
  presentation : String
  requirement : TlsnRequirement

/-- The guard, and the suspended calls. -/
structure TlsnProcess where
  guard : ReplayGuard := {}
  calls : JsMap Nat Validation := .empty
  nextCall : Nat := 0
  /-- The latest reading of the clock. No function reads it. -/
  clock : Int

/-- A call begins, or its sidecar has ended. -/
inductive TlsnAction where
  | validate (presentation : String) (requirement : TlsnRequirement)
      (verifierPath : Option String) (now : Int)
  | sidecar (call : Nat) (run : SidecarRun) (now : Int)

/-- How a call ends. -/
inductive TlsnEvent where
  | ended (call : Nat) (presentation : String) (result : TlsnValidationResult) (time : Int)
  | threw (call : Nat)

variable (R : TlsnTools)

def TlsnProcess.step (s : TlsnProcess) : TlsnAction → Option (TlsnProcess × List TlsnEvent)
  | .validate presentation requirement verifierPath now =>
    match beginValidateTlsn { R with verifierPath := verifierPath } s.guard (.ofInt now)
        presentation with
    | (g, .done result) =>
      some ({ s with guard := g, nextCall := s.nextCall + 1, clock := now },
        [.ended s.nextCall presentation result now])
    | (g, .running) =>
      some ({ guard := g
              calls := s.calls.set s.nextCall { presentation, requirement }
              nextCall := s.nextCall + 1
              clock := now }, [])
  | .sidecar call run now =>
    match s.calls.get? call with
    | none => none
    | some v =>
      match runVerifierBinary run with
      | none => some ({ s with calls := s.calls.delete call, clock := now }, [.threw call])
      | some crypto =>
        let (g, result) := finishValidateTlsn R s.guard (.ofInt now) v.presentation v.requirement
          crypto
        some ({ s with guard := g, calls := s.calls.delete call, clock := now },
          [.ended call v.presentation result now])

/-- The process as a machine. -/
def tlsnProcess : Machine TlsnProcess TlsnAction TlsnEvent where
  step := TlsnProcess.step R

/-! ## What a step can do -/

def TlsnValidationResult.accepted (result : TlsnValidationResult) : Bool :=
  result.signatureValid && result.serverIdentityValid && result.attestationFresh &&
    result.failures.isEmpty

def TlsnEvent.Accepts (presentation : String) (time : Int) : TlsnEvent → Prop
  | .ended _ p result t => result.accepted = true ∧ p = presentation ∧ t = time
  | .threw _ => False

variable {R}

variable {result : TlsnValidationResult} {evs : List TlsnEvent} {s' s : TlsnProcess} {now : Int}

theorem not_accepted_of_failures (h : result.failures ≠ []) :
    result.accepted = false := by
  cases hfailures : result.failures with
  | nil => exact absurd hfailures h
  | cons => simp [TlsnValidationResult.accepted, hfailures]

theorem failures_of_accepted (h : result.accepted = true) :
    result.failures = [] := by
  by_contra hne
  rw [not_accepted_of_failures hne] at h
  cases h

/-- The steps, with what each does to the guard. -/
inductive ProcessStep (R : TlsnTools) (s : TlsnProcess) :
    TlsnAction → TlsnProcess → List TlsnEvent → Prop
  | refused {presentation : String} {requirement : TlsnRequirement} {path : Option String}
      {now : Int} {result : TlsnValidationResult} (hresult : result.accepted = false) :
      ProcessStep R s (.validate presentation requirement path now)
        { s with guard := s.guard.evict (.ofInt now), nextCall := s.nextCall + 1, clock := now }
        [.ended s.nextCall presentation result now]
  | began {presentation : String} {requirement : TlsnRequirement} {path : Option String}
      {now : Int}
      (hnew : s.guard.remembers (presentationHash R presentation) (.ofInt now) = false) :
      ProcessStep R s (.validate presentation requirement path now)
        { guard := s.guard.evict (.ofInt now)
          calls := s.calls.set s.nextCall { presentation, requirement }
          nextCall := s.nextCall + 1
          clock := now } []
  | failed {call : Nat} {run : SidecarRun} {now : Int} {v : Validation} {evs : List TlsnEvent}
      (hcall : s.calls.get? call = some v)
      (hevs : ∀ e ∈ evs, ∀ presentation time, ¬e.Accepts presentation time) :
      ProcessStep R s (.sidecar call run now)
        { s with calls := s.calls.delete call, clock := now } evs
  | marked {call : Nat} {run : SidecarRun} {now : Int} {v : Validation}
      {crypto : VerifierBinaryResult} (hcall : s.calls.get? call = some v)
      (hrun : runVerifierBinary run = some crypto) (hvalid : crypto.signatureValid = true) :
      ProcessStep R s (.sidecar call run now)
        { s with
          guard := s.guard.add (presentationHash R v.presentation) (.ofInt now)
          calls := s.calls.delete call
          clock := now }
        [.ended call v.presentation
          (finishValidateTlsn R s.guard (.ofInt now) v.presentation v.requirement crypto).2 now]

theorem processStep_of_validate {presentation : String} {requirement : TlsnRequirement}
    {path : Option String}
    (h : s.step R (.validate presentation requirement path now) = some (s', evs)) :
    ProcessStep R s (.validate presentation requirement path now) s' evs := by
  have hguard : (beginValidateTlsn { R with verifierPath := path } s.guard (.ofInt now)
      presentation).1 = s.guard.evict (.ofInt now) := rfl
  have hcases := beginValidateTlsn_cases (R := { R with verifierPath := path }) s.guard
    (.ofInt now) presentation
  unfold TlsnProcess.step at h
  dsimp only at h
  generalize beginValidateTlsn { R with verifierPath := path } s.guard (.ofInt now)
    presentation = start at h hguard hcases
  obtain ⟨g, start⟩ := start
  dsimp only at hguard hcases
  subst hguard
  rcases hcases with ⟨rfl, hnew, -⟩ | ⟨result, rfl, hfailures, -⟩
  · cases h
    exact .began hnew
  · cases h
    exact .refused (not_accepted_of_failures hfailures)

theorem processStep_of_sidecar {call : Nat} {run : SidecarRun}
    (h : s.step R (.sidecar call run now) = some (s', evs)) :
    ProcessStep R s (.sidecar call run now) s' evs := by
  unfold TlsnProcess.step at h
  dsimp only at h
  split at h
  · cases h
  · next v hcall =>
    split at h
    · cases h
      refine .failed hcall fun e he presentation time haccepts => ?_
      rw [List.mem_singleton.mp he] at haccepts
      exact haccepts
    · next crypto hrun =>
      cases h
      by_cases hvalid : crypto.signatureValid = true
      · have hmark : (finishValidateTlsn R s.guard (.ofInt now) v.presentation v.requirement
            crypto).1 = s.guard.add (presentationHash R v.presentation) (.ofInt now) := by
          simp [finishValidateTlsn, hvalid]
        rw [hmark]
        exact .marked hcall hrun hvalid
      · have hkeep : (finishValidateTlsn R s.guard (.ofInt now) v.presentation v.requirement
            crypto).1 = s.guard := by
          simp [finishValidateTlsn, hvalid]
        rw [hkeep]
        refine .failed hcall fun e he presentation time haccepts => ?_
        rw [List.mem_singleton.mp he] at haccepts
        have hfailures := failures_of_accepted haccepts.1
        exact hvalid (finish_failures_eq_nil.mp hfailures).1.signature

theorem processStep_of_step {a : TlsnAction} (h : (tlsnProcess R).step s a = some (s', evs)) :
    ProcessStep R s a s' evs := by
  cases a with
  | validate => exact processStep_of_validate h
  | sidecar => exact processStep_of_sidecar h

end Anchr.Proofs
