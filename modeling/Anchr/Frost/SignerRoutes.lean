import Anchr.Frost.Sessions
import Anchr.Frost.SigningMessage

/-!
# The peer signer routes of a node

`registerFrostSignerRoutes` of `adapters/oracle-service/frost-signer-routes.ts` as a service with
suspended calls, behind the authentication.
-/

namespace Anchr.Frost

open Infra Proofs Requests

/-- The members of `FrostNodeConfig` that the routes read. -/
structure FrostNodeConfig where
  keyPackage : Json
  groupPubkey : String

/-- The body of round 1; a member that is missing is `none`. -/
structure Round1Body where
  message : Option String := none
  requirement : Option VerificationRequirement := none
  input : Option VerificationInput := none
  blossomKeys : Option BlossomKeyMap := none
  escrowToken : Option String := none

structure Round2Body where
  commitments : Option String := none
  message : Option String := none
  nonceId : Option String := none

structure Round1 where
  message : String
  requirement : VerificationRequirement
  input : VerificationInput
  blossomKeys : Option BlossomKeyMap
  escrowToken : Option String

/-- The status, and the JSON body. -/
structure Response where
  status : Nat := 200
  body : Json

def errorResponse (status : Nat) (error : String) : Response where
  status := status
  body := .obj [("error", .str error)]

/-- `c.json({ error: result.error }, 500)`. An absent message is not written. -/
def sidecarErrorResponse (result : FrostCliResult) : Response where
  status := 500
  body := .obj (result.error.toList.map fun error => ("error", .str error))

namespace SignerRoutes

inductive Pending where
  /-- At `await verifyProof(..)`. -/
  | verifying (r : Round1)
  /-- At `await signRound1(..)`. -/
  | committing (r : Round1)
  /-- At `await signRound2(..)`. -/
  | signing

abbrev Event := SignerEvent Response

abbrev Turn := CallTurn SessionTable Pending Event

/-- `POST /frost/signer/round1` and `POST /frost/signer/round2`. -/
inductive Request where
  /-- `none` is a body that is not JSON. -/
  | round1 (body : Option Round1Body)
  | round2 (body : Option Round2Body)

def answer (t : SessionTable) (call : Nat) (events : List Event) (response : Response) : Turn where
  shared := t
  events := events ++ [.answered call response]

section

variable (K : FrostTools) (frostNodeConfig : Option FrostNodeConfig)

def handleRound1 (t : SessionTable) (call : Nat) (body : Option Round1Body) : Turn :=
  match body with
  | some ⟨some message, some requirement, some input, blossomKeys, escrowToken⟩ =>
    if message = "" then
      answer t call [] (errorResponse 400 "Missing message, requirement, or input")
    else
      match frostNodeConfig with
      | none => answer t call [] (errorResponse 503 "FROST not configured on this node")
      | some _ =>
        { shared := t
          events := [.called call .one requirement input message]
          pending := some (.verifying { message, requirement, input, blossomKeys, escrowToken }) }
  | _ => answer t call [] (errorResponse 400 "Missing message, requirement, or input")

/-- After `await verifyProof(..)`. -/
def round1Verified (node : FrostNodeConfig) (t : SessionTable) (call : Nat) (r : Round1)
    (detail : VerificationDetail) : Turn :=
  let verified : Event := .verified call r.requirement r.input detail.passed
  if !detail.passed then
    answer t call [verified]
      { status := 403
        body := .obj [("error", .str "Verification failed"),
          ("failures", .arr (detail.failures.map .str))] }
  else if !isAllowedSigningMessage K r.message r.requirement r.escrowToken node.groupPubkey then
    answer t call [verified] (errorResponse 403 "Message does not match the verified requirement")
  else
    { shared := t
      events := [verified, .signRound1 call (node.keyPackage.stringify K.text)]
      pending := some (.committing r) }

/-- After `await signRound1(..)`. An id given before is not drawn again. -/
def round1Signed (t : SessionTable) (call : Nat) (r : Round1) (result : FrostCliResult)
    (nonceId : String) : Option Turn :=
  if nonceId ∈ t.issued then none
  else if !result.ok then some (answer t call [] (sidecarErrorResponse result))
  else
    match result.member "nonces", result.member "commitments" with
    | some nonces, some commitments =>
      let session : PendingNonceSession :=
        { noncesJson := nonces.map (Json.stringify K.text), messageHex := r.message }
      some
        { shared := t.store nonceId session
          events := [.noncesCreated call nonceId session,
            .answered call { body := .obj ((commitments.toList.map fun c => ("commitments", c)) ++
              [("nonce_id", .str nonceId)]) }] }
    | _, _ => some { shared := t }

def handleRound2 (t : SessionTable) (call : Nat) (body : Option Round2Body) : Turn :=
  match body with
  | some ⟨some commitments, some message, some nonceId⟩ =>
    if commitments = "" ∨ message = "" ∨ nonceId = "" then
      answer t call [] (errorResponse 400 "Missing commitments, message, or nonce_id")
    else
      match frostNodeConfig with
      | none => answer t call [] (errorResponse 503 "FROST not configured on this node")
      | some node =>
        match t.entries.get? nonceId with
        | none => answer t call [] (errorResponse 409 "Unknown or expired nonce_id")
        | some session =>
          if message ≠ session.messageHex then
            answer (t.consume nonceId) call []
              (errorResponse 403 "Message does not match the round-1 verified requirement")
          else
            { shared := t.consume nonceId
              events := [.signRound2 call nonceId
                { keyPackage := node.keyPackage.stringify K.text
                  noncesJson := session.noncesJson
                  commitmentsJson := commitments
                  messageHex := message }]
              pending := some .signing }
  | _ => answer t call [] (errorResponse 400 "Missing commitments, message, or nonce_id")

/-- After `await signRound2(..)`. -/
def round2Signed (t : SessionTable) (call : Nat) (result : FrostCliResult) : Turn :=
  if !result.ok then answer t call [] (sidecarErrorResponse result)
  else
    match result.member "signature_share" with
    | some share =>
      answer t call [] { body := .obj (share.toList.map fun s => ("signature_share", s)) }
    | none => { shared := t }

def begin (t : SessionTable) (call : Nat) : Request → Turn
  | .round1 body => handleRound1 frostNodeConfig t call body
  | .round2 body => handleRound2 K frostNodeConfig t call body

/-- The configuration does not change, so a suspended request finds it as it was. -/
def resume (t : SessionTable) (call : Nat) (p : Pending) (b : SignerAnswer) : Option Turn :=
  match p, b with
  | _, .threw => some { shared := t }
  | .verifying r, .verified detail =>
    frostNodeConfig.map fun node => round1Verified K node t call r detail
  | .committing r, .signedRound1 result nonceId => round1Signed K t call r result nonceId
  | .signing, .signedRound2 result => some (round2Signed t call result)
  | _, _ => none

def service : CallService SessionTable Pending Event Request SignerAnswer where
  begin := begin K frostNodeConfig
  resume := resume K frostNodeConfig

end

def initialState : CallState SessionTable Pending where
  shared := {}

/-! ## Acceptance -/

/-- A round-1 request whose verification gives `detail` gets as far as `signRound1`. -/
def AcceptsRound1 (K : FrostTools) (node : FrostNodeConfig) (t : SessionTable) (call : Nat)
    (body : Round1Body) (detail : VerificationDetail) : Prop :=
  ∃ r, (handleRound1 (some node) t call (some body)).pending = some (.verifying r) ∧
    (round1Verified K node t call r detail).pending = some (.committing r)

section

variable {K : FrostTools} {node : FrostNodeConfig} {t : SessionTable} {call : Nat}

variable {detail : VerificationDetail} {r : Round1} {body : Round1Body}

theorem round1Verified_pending :
    (round1Verified K node t call r detail).pending = some (.committing r) ↔
      detail.passed = true ∧
        isAllowedSigningMessage K r.message r.requirement r.escrowToken node.groupPubkey =
          true := by
  unfold round1Verified
  by_cases hpassed : detail.passed = true
  · by_cases hallowed :
      isAllowedSigningMessage K r.message r.requirement r.escrowToken node.groupPubkey = true
    · simp [hpassed, hallowed]
    · simp [hpassed, hallowed, answer]
  · simp [hpassed, answer]

theorem handleRound1_pending :
    (handleRound1 (some node) t call (some body)).pending = some (.verifying r) ↔
      r.message ≠ "" ∧ body = ⟨some r.message, some r.requirement, some r.input, r.blossomKeys,
        r.escrowToken⟩ := by
  obtain ⟨message, requirement, input, blossomKeys, escrowToken⟩ := body
  obtain ⟨rmessage, rrequirement, rinput, rblossomKeys, rescrowToken⟩ := r
  cases message with
  | none => simp [handleRound1, answer]
  | some message =>
    cases requirement with
    | none => simp [handleRound1, answer]
    | some requirement =>
      cases input with
      | none => simp [handleRound1, answer]
      | some input =>
        by_cases hmessage : message = ""
        · simp only [handleRound1, hmessage, if_true, answer, reduceCtorEq, false_iff, not_and]
          intro hne heq
          injection heq with heq
          exact hne (Option.some.inj heq).symm
        · simp only [handleRound1, hmessage, if_false, Option.some.injEq, Pending.verifying.injEq,
            Round1.mk.injEq, Round1Body.mk.injEq]
          constructor
          · rintro ⟨rfl, hrest⟩
            exact ⟨hmessage, rfl, hrest⟩
          · exact And.right

theorem acceptsRound1_iff :
    AcceptsRound1 K node t call body detail ↔
      ∃ message requirement input, message ≠ "" ∧ body.message = some message ∧
        body.requirement = some requirement ∧ body.input = some input ∧ detail.passed = true ∧
        isAllowedSigningMessage K message requirement body.escrowToken node.groupPubkey = true := by
  unfold AcceptsRound1
  simp only [handleRound1_pending, round1Verified_pending]
  constructor
  · rintro ⟨r, ⟨hmessage, rfl⟩, hpassed, hallowed⟩
    exact ⟨r.message, r.requirement, r.input, hmessage, rfl, rfl, rfl, hpassed, hallowed⟩
  · obtain ⟨_, _, _, blossomKeys, escrowToken⟩ := body
    rintro ⟨message, requirement, input, hmessage, rfl, rfl, rfl, hpassed, hallowed⟩
    exact ⟨⟨message, requirement, input, blossomKeys, escrowToken⟩, ⟨hmessage, rfl⟩, hpassed,
      hallowed⟩

end

/-! ## Nonces -/

def CallExplained (tr : List Event) (call : Nat) : Pending → Prop
  | .verifying r => .called call .one r.requirement r.input r.message ∈ tr
  | .committing r =>
    .called call .one r.requirement r.input r.message ∈ tr ∧
      .verified call r.requirement r.input true ∈ tr
  | .signing => True

variable {tr : List Event}

theorem CallExplained.mono {evs : List Event} {call : Nat} {p : Pending}
    (h : CallExplained tr call p) : CallExplained (tr ++ evs) call p := by
  cases p with
  | verifying r => exact List.mem_append_left _ h
  | committing r => exact ⟨List.mem_append_left _ h.1, List.mem_append_left _ h.2⟩
  | signing => trivial

section

variable {K : FrostTools} {frostNodeConfig : Option FrostNodeConfig} {tr : List Event}
  {t : SessionTable} {call : Nat}

abbrev Turn.Kept (tr : List Event) (call : Nat) (turn : Turn) : Prop :=
  CallTurn.Explained SessionsExplained CallExplained NonceJustified tr call turn

theorem kept_answer (ht : SessionsExplained tr t) (response : Response) :
    Turn.Kept tr call (answer t call [] response) := by
  refine explained_plain ht ⟨trivial, trivial⟩ (fun e he => ?_) (fun p hp => by cases hp)
  rw [List.mem_singleton.mp he]
  exact ⟨rfl, rfl⟩

theorem kept_handleRound1 (ht : SessionsExplained tr t) (body : Option Round1Body) :
    Turn.Kept tr call (handleRound1 frostNodeConfig t call body) := by
  unfold handleRound1
  split
  next message requirement input blossomKeys escrowToken =>
    by_cases hmessage : message = ""
    · rw [if_pos hmessage]
      exact kept_answer ht _
    · rw [if_neg hmessage]
      cases frostNodeConfig with
      | none => exact kept_answer ht _
      | some node =>
        refine explained_plain ht ⟨trivial, trivial⟩ (fun e he => ?_) (fun p hp => ?_)
        · rw [List.mem_singleton.mp he]
          exact ⟨rfl, rfl⟩
        · cases hp
          exact List.mem_append_right _ List.mem_cons_self
  next => exact kept_answer ht _

variable {r : Round1}

theorem kept_round1Verified (ht : SessionsExplained tr t)
    (hr : CallExplained tr call (.verifying r)) (node : FrostNodeConfig)
    (detail : VerificationDetail) : Turn.Kept tr call (round1Verified K node t call r detail) := by
  have hrefused : ∀ response, Turn.Kept tr call
      (answer t call [.verified call r.requirement r.input detail.passed] response) := by
    intro response
    refine explained_plain ht ⟨trivial, trivial, trivial⟩ ?_ (fun p hp => by cases hp)
    simp [SignerEvent.made, SignerEvent.used]
  unfold round1Verified
  by_cases hpassed : detail.passed = true
  · simp only [hpassed] at hrefused
    simp only [hpassed, Bool.not_true, Bool.false_eq_true, if_false]
    split
    · exact hrefused _
    · refine explained_plain ht ⟨trivial, trivial, trivial⟩ ?_ (fun p hp => ?_)
      · simp [SignerEvent.made, SignerEvent.used]
      · cases hp
        exact ⟨List.mem_append_left _ hr, List.mem_append_right _ List.mem_cons_self⟩
  · simp only [hpassed, Bool.not_false, if_true] at hrefused ⊢
    exact hrefused _

theorem kept_round1Signed (ht : SessionsExplained tr t)
    (hr : CallExplained tr call (.committing r)) {result : FrostCliResult} {nonceId : String}
    {turn : Turn} (h : round1Signed K t call r result nonceId = some turn) :
    Turn.Kept tr call turn := by
  unfold round1Signed at h
  by_cases hfresh : nonceId ∈ t.issued
  · rw [if_pos hfresh] at h
    cases h
  rw [if_neg hfresh] at h
  by_cases hok : result.ok = true
  · simp only [hok, Bool.not_true, Bool.false_eq_true, if_false] at h
    split at h
    next nonces commitments _ _ =>
      cases h
      exact explained_store ht hfresh hr.1 hr.2
        ⟨nonceJustified_noncesCreated ht hfresh, trivial, trivial⟩
    cases h
    exact explained_over ht
  · simp only [hok, Bool.not_false, if_true] at h
    cases h
    exact kept_answer ht _

theorem kept_handleRound2 (ht : SessionsExplained tr t) (body : Option Round2Body) :
    Turn.Kept tr call (handleRound2 K frostNodeConfig t call body) := by
  unfold handleRound2
  split
  next commitments message nonceId =>
    split
    · exact kept_answer ht _
    cases frostNodeConfig with
    | none => exact kept_answer ht _
    | some node =>
      cases hget : t.entries.get? nonceId with
      | none => exact kept_answer ht _
      | some session =>
        by_cases hmessage : message = session.messageHex
        · simp only [hmessage, ne_eq, not_true_eq_false, if_false]
          refine explained_consume ht hget
            ⟨nonceJustified_signRound2 ht hget rfl rfl, trivial⟩ ?_ ?_ ?_
          · simp [SignerEvent.made]
          · simp [SignerEvent.used]
          · intro p hp
            cases hp
            trivial
        · simp only [ne_eq, hmessage, not_false_eq_true, if_true]
          refine explained_consume ht hget ⟨trivial, trivial⟩ ?_ ?_ (fun p hp => by cases hp)
          · simp [SignerEvent.made]
          · simp [SignerEvent.used]
  next => exact kept_answer ht _

theorem kept_round2Signed (ht : SessionsExplained tr t) (result : FrostCliResult) :
    Turn.Kept tr call (round2Signed t call result) := by
  unfold round2Signed
  split
  · exact kept_answer ht _
  · split
    · exact kept_answer ht _
    · exact explained_over ht

end

theorem explains (K : FrostTools) (frostNodeConfig : Option FrostNodeConfig) :
    (service K frostNodeConfig).Explains (fun _ => True) SessionsExplained CallExplained
      NonceJustified where
  mono := CallExplained.mono
  begin ht call a _ := by
    cases a with
    | round1 body => exact kept_handleRound1 ht body
    | round2 body => exact kept_handleRound2 ht body
  resume {tr t call p b turn} ht hp h := by
    simp only [service, resume] at h
    split at h
    next =>
      cases h
      exact explained_over ht
    next r detail =>
      obtain ⟨node, -, rfl⟩ := Option.map_eq_some_iff.mp h
      exact kept_round1Verified ht hp node detail
    next r result nonceId => exact kept_round1Signed ht hp h
    next result =>
      cases h
      exact kept_round2Signed ht result
    next => cases h

theorem justified_of_run {K : FrostTools} {frostNodeConfig : Option FrostNodeConfig}
    {s : CallState SessionTable Pending}
    (h : Run (service K frostNodeConfig).machine AnyStep initialState tr s) :
    Justified NonceJustified tr := by
  have hinit : SessionsExplained ([] : List Event) initialState.shared :=
    TicketTable.Explained.init
  exact ((explains K frostNodeConfig).run (fun _ _ _ => trivial) hinit rfl h).1

end SignerRoutes

end Anchr.Frost
