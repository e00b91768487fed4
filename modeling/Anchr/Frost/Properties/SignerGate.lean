import Anchr.Frost.Properties.DerivedMessage

/-!
# The gates of the two peer signers

A node asks in round 1 whether it can derive the message from the requirement it has just verified.
`FrostSigner.verifyAndSign` verifies the requirement and then signs the message it is given.
-/

namespace Anchr.Frost

open Infra Proofs Requests SignerRoutes

def AnswersBy (verify : VerificationRequirement → VerificationInput → VerificationDetail)
    (s : CallState SessionTable Signer.Pending) :
    CallAction VerifyAndSignArgs SignerAnswer → Prop
  | .resume call (.verified detail) =>
    ∀ args, s.calls.get? call = some (.verifying args) →
      detail = verify args.requirement args.input
  | _ => True

section

variable {T : NumberText} {keyPackage : String}
  {verify : VerificationRequirement → VerificationInput → VerificationDetail}

variable {requirement : VerificationRequirement} {input : VerificationInput}
  {args : VerifyAndSignArgs} {t : SessionTable} {passed : Bool} {call' call : Nat}

variable {events : List Signer.Event}

theorem verified_of_answer {output : Option SignerOutput}
    (h : .verified call' requirement input passed ∈
      (Signer.answer t call events args output).events) :
    .verified call' requirement input passed ∈ events := by
  simpa [Signer.answer] using h

theorem verified_of_takeSession {commitmentsJson : String}
    (h : .verified call' requirement input passed ∈
      (Signer.takeSession keyPackage t call events args commitmentsJson).events) :
    .verified call' requirement input passed ∈ events := by
  unfold Signer.takeSession at h
  split at h
  next => exact verified_of_answer h
  next => exact verified_of_answer h
  split at h
  next => exact verified_of_answer h
  split at h
  next => exact verified_of_answer h
  next => simpa using h

theorem verified_of_verifiedTurn {detail : VerificationDetail}
    (h : .verified call' requirement input passed ∈
      (Signer.verifiedTurn keyPackage t call args detail).events) :
    requirement = args.requirement ∧ input = args.input ∧ passed = detail.passed := by
  have hself : (.verified call' requirement input passed : Signer.Event) ∈
      [.verified call args.requirement args.input detail.passed] := by
    unfold Signer.verifiedTurn at h
    split at h
    next => exact verified_of_answer h
    split at h
    next => simpa using h
    next => simpa using h
    next => exact verified_of_takeSession h
  obtain ⟨-, hrequirement, hinput, hpassed⟩ :=
    SignerEvent.verified.inj (List.mem_singleton.mp hself)
  exact ⟨hrequirement, hinput, hpassed⟩

theorem verified_of_resume {p : Signer.Pending} {b : SignerAnswer} {turn : Signer.Turn}
    (h : Signer.resume T keyPackage t call p b = some turn)
    (hmem : .verified call' requirement input passed ∈ turn.events) :
    ∃ args detail, p = .verifying args ∧ b = .verified detail ∧ requirement = args.requirement ∧
      input = args.input ∧ passed = detail.passed := by
  unfold Signer.resume at h
  split at h
  next =>
    cases h
    cases hmem
  next args detail =>
    cases h
    exact ⟨args, detail, rfl, rfl, verified_of_verifiedTurn hmem⟩
  next args result sessionId =>
    unfold Signer.round1Signed at h
    split at h
    next => cases h
    split at h
    next =>
      cases h
      cases verified_of_answer hmem
    cases h
    simp at hmem
  next args result =>
    cases h
    unfold Signer.round2Signed at hmem
    split at hmem
    next => cases verified_of_answer hmem
    next => cases verified_of_answer hmem
  next => cases h

theorem verified_agrees {tr : List Signer.Event} {s : CallState SessionTable Signer.Pending}
    (h : Run (Signer.service T keyPackage).machine (AnswersBy verify) Signer.initialState tr s) :
    ∀ call requirement input passed, .verified call requirement input passed ∈ tr →
      passed = (verify requirement input).passed := by
  refine Run.invariant (I := fun tr _ => ∀ call requirement input passed,
    .verified call requirement input passed ∈ tr → passed = (verify requirement input).passed)
    ?_ ?_ h
  · intro call requirement input passed hmem
    cases hmem
  · intro tr s a s' evs ih hguard hstep call requirement input passed hmem
    rcases List.mem_append.mp hmem with hmem | hmem
    · exact ih call requirement input passed hmem
    · obtain ⟨call', turn, htakes, -, -, rfl⟩ := CallService.takes_of_step hstep
      cases htakes with
      | begin args =>
        cases List.mem_singleton.mp hmem
      | resume hp hresume =>
        obtain ⟨args, detail, rfl, rfl, rfl, rfl, rfl⟩ := verified_of_resume hresume hmem
        rw [hguard args hp]

end

/-- In some run a call with these arguments, of either round, returns more than `null`. -/
def Produces (T : NumberText) (keyPackage : String)
    (verify : VerificationRequirement → VerificationInput → VerificationDetail)
    (requirement : VerificationRequirement) (input : VerificationInput) (message : String) : Prop :=
  ∃ tr s call reply, Run (Signer.service T keyPackage).machine (AnswersBy verify)
      Signer.initialState tr s ∧ .answered call reply ∈ tr ∧ reply.output.isSome = true ∧
    reply.args.requirement = requirement ∧ reply.args.input = input ∧ reply.args.message = message

/-- What the `FrostSigner` signs, round 1 of a node with the same keys accepts. -/
def SameGate (K : FrostTools) (node : FrostNodeConfig)
    (verify : VerificationRequirement → VerificationInput → VerificationDetail)
    (requirement : VerificationRequirement) (input : VerificationInput) (message : String)
    (escrowToken : Option String) : Prop :=
  Produces K.text (node.keyPackage.stringify K.text) verify requirement input message →
    ∀ t call, AcceptsRound1 K node t call
      { message := some message, requirement := some requirement, input := some input, escrowToken }
      (verify requirement input)

theorem produces_of_passed {T : NumberText} {keyPackage : String}
    {verify : VerificationRequirement → VerificationInput → VerificationDetail}
    {requirement : VerificationRequirement} {input : VerificationInput}
    (hpassed : (verify requirement input).passed = true) (message : String) :
    Produces T keyPackage verify requirement input message := by
  have hbegun : Run (Signer.service T keyPackage).machine (AnswersBy verify)
      Signer.initialState _ _ :=
    Run.start.next (show AnswersBy verify Signer.initialState
      (.begin { requirement, input, message }) from trivial) rfl
  have hturn : Signer.resume T keyPackage {} 0 (.verifying { requirement, input, message })
      (.verified (verify requirement input)) = some
        { shared := {}
          events := [.verified 0 requirement input true, .signRound1 0 keyPackage]
          pending := some (.committing { requirement, input, message }) } := by
    simp [Signer.resume, Signer.verifiedTurn, hpassed]
  have hverified := hbegun.next
    (show AnswersBy verify _ (.resume 0 (.verified (verify requirement input))) from
      fun args hget => by
        injection hget with hp
        injection hp with hargs
        rw [← hargs])
    (CallService.step_resume rfl hturn)
  have hsigned := hverified.next
    (show AnswersBy verify _ (.resume 0 (.signedRound1 plainCommitted "n")) from trivial)
    (CallService.step_resume rfl rfl)
  exact ⟨_, _, 0, _, hsigned, List.mem_append_right _ (List.mem_cons_of_mem _ List.mem_cons_self),
    rfl, rfl, rfl, rfl⟩

/-- This is so for the messages a node can derive, and for no other message of a requirement that
passes. -/
theorem same_gate_iff (K : FrostTools) (node : FrostNodeConfig)
    (verify : VerificationRequirement → VerificationInput → VerificationDetail)
    (requirement : VerificationRequirement) (input : VerificationInput) (message : String)
    (escrowToken : Option String) :
    SameGate K node verify requirement input message escrowToken ↔
      (verify requirement input).passed = false ∨
        (message ≠ "" ∧ isAllowedSigningMessage K message requirement escrowToken node.groupPubkey
          = true) := by
  constructor
  · intro hgate
    by_cases hpassed : (verify requirement input).passed = true
    · obtain ⟨message', requirement', input', hne, hmessage, hrequirement, -, -, hallowed⟩ :=
        acceptsRound1_iff.mp (hgate (produces_of_passed hpassed message) {} 0)
      cases hmessage
      cases hrequirement
      exact .inr ⟨hne, hallowed⟩
    · exact .inl (Bool.not_eq_true _ ▸ hpassed)
  · rintro hcond ⟨tr, s, call, reply, hrun, hanswered, hsome, rfl, rfl, rfl⟩ t call'
    obtain ⟨pre, post, htr⟩ := List.append_of_mem hanswered
    have hverified := (Signer.justified_of_run hrun pre _ post htr).2 call reply rfl hsome
    have hpassed := verified_agrees hrun _ _ _ _ (htr ▸ List.mem_append_left _ hverified)
    rcases hcond with hfailed | ⟨hne, hallowed⟩
    · rw [hfailed] at hpassed
      cases hpassed
    · exact acceptsRound1_iff.mpr ⟨_, _, _, hne, rfl, rfl, rfl, hpassed.symm, hallowed⟩

/-- A `FrostSigner` commits to a message that has nothing to do with the verified requirement. -/
theorem signs_underived_message :
    ¬SameGate plainTools plainNode (fun _ _ => passedDetail) { id := "q" } {} "m" none := by
  intro hgate
  obtain ⟨message, requirement, -, -, hmessage, hrequirement, -, -, hallowed⟩ :=
    acceptsRound1_iff.mp (hgate (produces_of_passed rfl "m") {} 0)
  cases hmessage
  cases hrequirement
  exact absurd hallowed (by decide)

end Anchr.Frost
