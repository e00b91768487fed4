import Anchr.Frost.Sessions

/-!
# The FROST signer object

`createFrostSigner` of `payments/frost/frost-signer.ts`: its method `verifyAndSign` as a service
with suspended calls. Both rounds are calls of the one method, and each of them verifies first. The
key generation rounds (`dkgRound`) share nothing with it and are left out.
-/

namespace Anchr.Frost

open Infra Proofs Requests

/-- The argument of `verifyAndSign`. -/
structure VerifyAndSignArgs where
  requirement : VerificationRequirement
  input : VerificationInput
  message : String
  commitmentsJson : Option String := none
  blossomKeys : Option BlossomKeyMap := none
  sessionId : Option String := none

/-- `!commitmentsJson` is round 1. -/
def VerifyAndSignArgs.round (args : VerifyAndSignArgs) : Round :=
  match args.commitmentsJson with
  | none | some "" => .one
  | some _ => .two

structure SignerOutput where
  nonceCommitment : Option String := none
  sessionId : Option String := none
  signatureShare : Option String := none

/-- What a call resolves to, with its arguments; `none` is `null`. -/
structure SignerReply where
  args : VerifyAndSignArgs
  output : Option SignerOutput

def asJsonString (T : NumberText) : Option Json → Option String
  | none => none
  | some (.str s) => some s
  | some value => some (value.stringify T)

/-- The data of a sidecar answer, unless `!result.ok || !result.data`. -/
def FrostCliResult.usable (result : FrostCliResult) : Option Json :=
  if result.ok then result.data.filter Json.truthy else none

namespace Signer

inductive Pending where
  /-- At `await verifyProof(..)`. -/
  | verifying (args : VerifyAndSignArgs)
  /-- At `await signRound1(..)`. -/
  | committing (args : VerifyAndSignArgs)
  /-- At `await signRound2(..)`. -/
  | signing (args : VerifyAndSignArgs)

abbrev Event := SignerEvent SignerReply

abbrev Turn := CallTurn SessionTable Pending Event

/-- `return output`. -/
def answer (t : SessionTable) (call : Nat) (events : List Event) (args : VerifyAndSignArgs)
    (output : Option SignerOutput) : Turn where
  shared := t
  events := events ++ [.answered call { args, output }]

section

variable (T : NumberText) (keyPackage : String)

/-- `verifyAndSign`, up to the verification. -/
def begin (t : SessionTable) (call : Nat) (args : VerifyAndSignArgs) : Turn where
  shared := t
  events := [.called call args.round args.requirement args.input args.message]
  pending := some (.verifying args)

/-- Round 2 after the verification. -/
def takeSession (t : SessionTable) (call : Nat) (events : List Event) (args : VerifyAndSignArgs)
    (commitmentsJson : String) : Turn :=
  match args.sessionId with
  | none | some "" => answer t call events args none
  | some sessionId =>
    match t.entries.get? sessionId with
    | none => answer t call events args none
    | some session =>
      if session.messageHex ≠ args.message then
        answer (t.consume sessionId) call events args none
      else
        { shared := t.consume sessionId
          events := events ++ [.signRound2 call sessionId
            { keyPackage := keyPackage
              noncesJson := session.noncesJson
              commitmentsJson := commitmentsJson
              messageHex := args.message }]
          pending := some (.signing args) }

/-- After `await verifyProof(..)`. -/
def verifiedTurn (t : SessionTable) (call : Nat) (args : VerifyAndSignArgs)
    (detail : VerificationDetail) : Turn :=
  let verified : Event := .verified call args.requirement args.input detail.passed
  if !detail.passed then answer t call [verified] args none
  else
    match args.commitmentsJson with
    | none | some "" =>
      { shared := t
        events := [verified, .signRound1 call keyPackage]
        pending := some (.committing args) }
    | some commitmentsJson => takeSession keyPackage t call [verified] args commitmentsJson

/-- After `await signRound1(..)`. An id given before is not drawn again. -/
def round1Signed (t : SessionTable) (call : Nat) (args : VerifyAndSignArgs)
    (result : FrostCliResult) (sessionId : String) : Option Turn :=
  if sessionId ∈ t.issued then none
  else
    match result.usable with
    | none => some (answer t call [] args none)
    | some data =>
      let session : PendingNonceSession :=
        { noncesJson := asJsonString T (data.get? "nonces"), messageHex := args.message }
      some
        { shared := t.store sessionId session
          events := [.noncesCreated call sessionId session,
            .answered call
              { args
                output := some
                  { nonceCommitment := asJsonString T (data.get? "commitments")
                    sessionId := some sessionId } }] }

/-- After `await signRound2(..)`. -/
def round2Signed (t : SessionTable) (call : Nat) (args : VerifyAndSignArgs)
    (result : FrostCliResult) : Turn :=
  match result.usable with
  | none => answer t call [] args none
  | some data =>
    answer t call [] args (some { signatureShare := asJsonString T (data.get? "signature_share") })

def resume (t : SessionTable) (call : Nat) (p : Pending) (b : SignerAnswer) : Option Turn :=
  match p, b with
  | _, .threw => some { shared := t }
  | .verifying args, .verified detail => some (verifiedTurn keyPackage t call args detail)
  | .committing args, .signedRound1 result sessionId =>
    round1Signed T t call args result sessionId
  | .signing args, .signedRound2 result => some (round2Signed T t call args result)
  | _, _ => none

def service : CallService SessionTable Pending Event VerifyAndSignArgs SignerAnswer where
  begin := begin
  resume := resume T keyPackage

end

def initialState : CallState SessionTable Pending where
  shared := {}

/-! ## Nonces -/

/-- Output only after a verification that passed, of the requirement and the input of the call. -/
def EventJustified (tr : List Event) (e : Event) : Prop :=
  NonceJustified tr e ∧
    ∀ call reply, e = .answered call reply → reply.output.isSome = true →
      .verified call reply.args.requirement reply.args.input true ∈ tr

def CallExplained (tr : List Event) (call : Nat) : Pending → Prop
  | .verifying args =>
    .called call args.round args.requirement args.input args.message ∈ tr
  | .committing args =>
    .called call .one args.requirement args.input args.message ∈ tr ∧
      .verified call args.requirement args.input true ∈ tr
  | .signing args => .verified call args.requirement args.input true ∈ tr

variable {tr : List Event}

theorem CallExplained.mono {evs : List Event} {call : Nat} {p : Pending}
    (h : CallExplained tr call p) : CallExplained (tr ++ evs) call p := by
  cases p with
  | verifying args => exact List.mem_append_left _ h
  | committing args => exact ⟨List.mem_append_left _ h.1, List.mem_append_left _ h.2⟩
  | signing args => exact List.mem_append_left _ h

section

variable {T : NumberText} {keyPackage : String} {tr : List Event} {t : SessionTable} {call : Nat}
  {args : VerifyAndSignArgs}

abbrev Turn.Kept (tr : List Event) (call : Nat) (turn : Turn) : Prop :=
  CallTurn.Explained SessionsExplained CallExplained EventJustified tr call turn

theorem justified_of_nonce {e : Event} (h : NonceJustified tr e)
    (hne : ∀ call reply, e ≠ .answered call reply) : EventJustified tr e :=
  ⟨h, fun call reply heq => absurd heq (hne call reply)⟩

variable {passed : Bool} {output : Option SignerOutput}

theorem justified_verified :
    EventJustified tr (.verified call args.requirement args.input passed) :=
  justified_of_nonce trivial (by simp)

theorem justified_null : EventJustified tr (.answered call { args, output := none }) := by
  refine ⟨trivial, fun call' reply heq hsome => ?_⟩
  injection heq with _ hreply
  subst hreply
  cases hsome

theorem justified_output (h : .verified call args.requirement args.input true ∈ tr) :
    EventJustified tr (.answered call { args, output }) := by
  refine ⟨trivial, fun call' reply heq _ => ?_⟩
  injection heq with hcall hreply
  subst hcall hreply
  exact h

theorem kept_begin (ht : SessionsExplained tr t) (args : VerifyAndSignArgs) :
    Turn.Kept tr call (begin t call args) := by
  refine explained_plain ht ⟨justified_of_nonce trivial (by simp), trivial⟩ ?_ (fun p hp => ?_)
  · simp [SignerEvent.made, SignerEvent.used]
  · cases hp
    exact List.mem_append_right _ List.mem_cons_self

theorem kept_answer (ht : SessionsExplained tr t)
    (houtput : EventJustified tr (.answered call { args, output })) :
    Turn.Kept tr call (answer t call [] args output) := by
  refine explained_plain ht ⟨houtput, trivial⟩ ?_ (fun p hp => by cases hp)
  simp [SignerEvent.made, SignerEvent.used]

theorem kept_refused (ht : SessionsExplained tr t) :
    Turn.Kept tr call
      (answer t call [.verified call args.requirement args.input passed] args none) := by
  refine explained_plain ht ⟨justified_verified, justified_null, trivial⟩ ?_
    (fun p hp => by cases hp)
  simp [SignerEvent.made, SignerEvent.used]

theorem kept_takeSession (ht : SessionsExplained tr t) (commitmentsJson : String) :
    Turn.Kept tr call (takeSession keyPackage t call
      [.verified call args.requirement args.input true] args commitmentsJson) := by
  unfold takeSession
  split
  next => exact kept_refused ht
  next => exact kept_refused ht
  next sessionId _ _ =>
    cases hget : t.entries.get? sessionId with
    | none => exact kept_refused ht
    | some session =>
      by_cases hmessage : session.messageHex = args.message
      · simp only [hmessage, ne_eq, not_true_eq_false, if_false]
        -- The table is explained after the verification too, and the nonces are used after it.
        have ht' : SessionsExplained (tr ++ [.verified call args.requirement args.input true]) t :=
          ht.keep CreatedIn.mono (by simp [SignerEvent.made]) (by simp [SignerEvent.used])
        refine explained_consume ht hget ⟨justified_verified,
          justified_of_nonce (nonceJustified_signRound2 ht' hget rfl hmessage.symm) (by simp),
          trivial⟩ ?_ ?_ ?_
        · simp [SignerEvent.made]
        · simp [SignerEvent.used]
        · intro p hp
          cases hp
          exact List.mem_append_right _ List.mem_cons_self
      · simp only [ne_eq, hmessage, not_false_eq_true, if_true]
        refine explained_consume ht hget ⟨justified_verified, justified_null, trivial⟩ ?_ ?_
          (fun p hp => by cases hp)
        · simp [SignerEvent.made]
        · simp [SignerEvent.used]

theorem kept_verifiedTurn (ht : SessionsExplained tr t)
    (hargs : CallExplained tr call (.verifying args)) (detail : VerificationDetail) :
    Turn.Kept tr call (verifiedTurn keyPackage t call args detail) := by
  have hround1 : args.round = .one → Turn.Kept tr call
      { shared := t
        events := [.verified call args.requirement args.input true, .signRound1 call keyPackage]
        pending := some (.committing args) } := by
    intro hround
    refine explained_plain ht ⟨justified_verified, justified_of_nonce trivial (by simp), trivial⟩ ?_
      (fun p hp => ?_)
    · simp [SignerEvent.made, SignerEvent.used]
    · cases hp
      exact ⟨List.mem_append_left _ (hround ▸ hargs), List.mem_append_right _ List.mem_cons_self⟩
  unfold verifiedTurn
  by_cases hpassed : detail.passed = true
  · simp only [hpassed, Bool.not_true, Bool.false_eq_true, if_false]
    split
    next hnone => exact hround1 (by simp [VerifyAndSignArgs.round, hnone])
    next hempty => exact hround1 (by simp [VerifyAndSignArgs.round, hempty])
    next commitmentsJson _ _ => exact kept_takeSession ht commitmentsJson
  · simp only [hpassed, Bool.not_false, if_true]
    exact kept_refused ht

theorem kept_round1Signed (ht : SessionsExplained tr t)
    (hargs : CallExplained tr call (.committing args)) {result : FrostCliResult}
    {sessionId : String} {turn : Turn}
    (h : round1Signed T t call args result sessionId = some turn) :
    Turn.Kept tr call turn := by
  unfold round1Signed at h
  by_cases hfresh : sessionId ∈ t.issued
  · rw [if_pos hfresh] at h
    cases h
  rw [if_neg hfresh] at h
  split at h
  next =>
    cases h
    exact kept_answer ht justified_null
  next data _ =>
    cases h
    refine explained_store ht hfresh hargs.1 hargs.2 ⟨?_, ?_, trivial⟩
    · exact justified_of_nonce (nonceJustified_noncesCreated ht hfresh) (by simp)
    · exact justified_output (List.mem_append_left _ hargs.2)

theorem kept_round2Signed (ht : SessionsExplained tr t)
    (hargs : CallExplained tr call (.signing args)) (result : FrostCliResult) :
    Turn.Kept tr call (round2Signed T t call args result) := by
  unfold round2Signed
  split
  · exact kept_answer ht justified_null
  · exact kept_answer ht (justified_output hargs)

end

theorem explains (T : NumberText) (keyPackage : String) :
    (service T keyPackage).Explains (fun _ => True) SessionsExplained CallExplained
      EventJustified where
  mono := CallExplained.mono
  begin ht call args _ := kept_begin ht args
  resume {tr t call p b turn} ht hp h := by
    simp only [service, resume] at h
    split at h
    next =>
      cases h
      exact explained_over ht
    next args detail =>
      cases h
      exact kept_verifiedTurn ht hp detail
    next args result sessionId => exact kept_round1Signed ht hp h
    next args result =>
      cases h
      exact kept_round2Signed ht hp result
    next => cases h

theorem justified_of_run {T : NumberText} {keyPackage : String}
    {G : CallState SessionTable Pending → CallAction VerifyAndSignArgs SignerAnswer → Prop}
    {s : CallState SessionTable Pending}
    (h : Run (service T keyPackage).machine G initialState tr s) :
    Justified EventJustified tr := by
  have hinit : SessionsExplained ([] : List Event) initialState.shared :=
    TicketTable.Explained.init
  exact ((explains T keyPackage).run (fun _ _ _ => trivial) hinit rfl h).1

end Signer

end Anchr.Frost
