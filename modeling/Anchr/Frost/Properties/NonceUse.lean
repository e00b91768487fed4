import Anchr.Frost.Signer
import Anchr.Frost.SignerRoutes

/-!
# Nonces are used once, for the message they were made for

Nonces used for two messages give away the signing share. The two peer signers keep them in tables
of their own; what is said here holds of both.
-/

namespace Anchr.Frost

open Infra Proofs Requests

variable {ρ : Type}

/-- Of a history: no nonces are used twice, and what is signed was verified in round 1. -/
structure NonceSafe (tr : List (SignerEvent ρ)) : Prop where
  distinct : ∀ pre mid post call call' sessionId session session',
    tr ≠ pre ++ .noncesCreated call sessionId session :: (mid ++
      .noncesCreated call' sessionId session' :: post)
  once : ∀ pre mid post call call' sessionId args args',
    tr ≠ pre ++ .signRound2 call sessionId args :: (mid ++
      .signRound2 call' sessionId args' :: post)
  /-- Then the message is that of the round-1 request that made it, and that request had passed
  verification. -/
  bound : ∀ pre post call sessionId args,
    tr = pre ++ .signRound2 call sessionId args :: post →
      ∃ call₁ requirement input, .called call₁ .one requirement input args.messageHex ∈ pre ∧
        .verified call₁ requirement input true ∈ pre ∧
        .noncesCreated call₁ sessionId
          { noncesJson := args.noncesJson, messageHex := args.messageHex } ∈ pre

theorem not_twice {tr pre mid post : List (SignerEvent ρ)} {d e : SignerEvent ρ}
    (h : Justified NonceJustified tr) (hd : NonceJustified (pre ++ e :: mid) d → False) :
    tr ≠ pre ++ e :: (mid ++ d :: post) := by
  intro htr
  exact hd (h (pre ++ e :: mid) d post (by simpa using htr))

theorem nonceSafe_of_justified {tr : List (SignerEvent ρ)} (h : Justified NonceJustified tr) :
    NonceSafe tr where
  distinct pre mid post call call' sessionId session session' := by
    refine not_twice h fun hnew => ?_
    exact hnew (.noncesCreated call sessionId session) (by simp) rfl
  once pre mid post call call' sessionId args args' := by
    refine not_twice h fun hused => ?_
    exact hused.2 (.signRound2 call sessionId args) (by simp) rfl
  bound pre post call sessionId args htr := by
    obtain ⟨⟨session, hcreated, hnonces, hmessage⟩, -⟩ := h pre _ post htr
    obtain ⟨call₁, requirement, input, hcalled, hverified, hmade⟩ := hcreated
    rw [hnonces, hmessage]
    exact ⟨call₁, requirement, input, hcalled, hverified, hmade⟩

/-- A node and a `FrostSigner`, each with any number of calls in any order. -/
theorem nonces_used_once (K : FrostTools) (frostNodeConfig : Option FrostNodeConfig)
    (keyPackage : String) :
    (∀ tr s, Run (SignerRoutes.service K frostNodeConfig).machine AnyStep
      SignerRoutes.initialState tr s → NonceSafe tr) ∧
    ∀ tr s, Run (Signer.service K.text keyPackage).machine AnyStep
      Signer.initialState tr s → NonceSafe tr := by
  constructor
  · intro tr s hrun
    exact nonceSafe_of_justified (SignerRoutes.justified_of_run hrun)
  · intro tr s hrun
    have hjust := Signer.justified_of_run hrun
    exact nonceSafe_of_justified fun pre e post htr => (hjust pre e post htr).1

/-! ## Fixed runs -/

/-- A node of the group. -/
def plainNode : FrostNodeConfig where
  keyPackage := .obj []
  groupPubkey := plainGroup

def passedDetail : VerificationDetail where
  passed := true
  checks := []
  failures := []

def plainCommitted : FrostCliResult where
  ok := true
  data := some (.obj [("nonces", .str "nonces"), ("commitments", .str "commitments")])

def plainShared : FrostCliResult where
  ok := true
  data := some (.obj [("signature_share", .str "share")])

def plainRound1 : Round1Body where
  message := some (deriveFrostSigningMessage plainTools "q")
  requirement := some { id := "q" }
  input := some {}

def plainRound2 : Round2Body where
  commitments := some "all"
  message := some (deriveFrostSigningMessage plainTools "q")
  nonceId := some "n"

def routeActions : List (CallAction SignerRoutes.Request SignerAnswer) :=
  [.begin (.round1 (some plainRound1)), .resume 0 (.verified passedDetail),
    .resume 0 (.signedRound1 plainCommitted "n"), .begin (.round2 (some plainRound2)),
    .begin (.round2 (some plainRound2)), .resume 1 (.signedRound2 plainShared)]

def signerActions : List (CallAction VerifyAndSignArgs SignerAnswer) :=
  let round1 : VerifyAndSignArgs := { requirement := { id := "q" }, input := {}, message := "m" }
  let round2 := { round1 with commitmentsJson := some "all", sessionId := some "n" }
  [.begin round1, .resume 0 (.verified passedDetail), .resume 0 (.signedRound1 plainCommitted "n"),
    .begin round2, .begin round2, .resume 1 (.verified passedDetail),
    .resume 2 (.verified passedDetail), .resume 1 (.signedRound2 plainShared)]

/-- In both runs round 2 comes to the sidecar, and only once. -/
theorem nonces_used_once_twice_asked :
    (∃ tr s, Run (SignerRoutes.service plainTools (some plainNode)).machine AnyStep
      SignerRoutes.initialState tr s ∧ tr.filterMap SignerEvent.used = ["n"] ∧ NonceSafe tr) ∧
    ∃ tr s, Run (Signer.service plainTools.text "key").machine AnyStep Signer.initialState tr s ∧
      tr.filterMap SignerEvent.used = ["n"] ∧ NonceSafe tr := by
  obtain ⟨hroutes, hsigner⟩ := nonces_used_once plainTools (some plainNode) "key"
  constructor
  · obtain ⟨tr, s, hrun, hused⟩ := Run.exists_of_exec
      (f := fun tr => tr.filterMap SignerEvent.used) (b := ["n"])
      (Machine.admits_anyStep (SignerRoutes.service plainTools (some plainNode)).machine
        routeActions SignerRoutes.initialState) (by decide +kernel)
    exact ⟨tr, s, hrun, hused, hroutes tr s hrun⟩
  · obtain ⟨tr, s, hrun, hused⟩ := Run.exists_of_exec
      (f := fun tr => tr.filterMap SignerEvent.used) (b := ["n"])
      (Machine.admits_anyStep (Signer.service plainTools.text "key").machine signerActions
        Signer.initialState) (by decide)
    exact ⟨tr, s, hrun, hused, hsigner tr s hrun⟩

end Anchr.Frost
