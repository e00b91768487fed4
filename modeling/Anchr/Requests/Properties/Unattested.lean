import Anchr.Requests.Steps
import Anchr.Requests.Properties.Quorum

/-!
# Verifications that yield no attestation

No Oracle resolves, too few do, there is no registry, or an Oracle that was asked rejects. Nobody
has judged the result then, and the submission should be open to another try.
-/

namespace Anchr.Requests

open Infra

/-! ## The submission alone -/

/-- The query that a result is submitted for. -/
def Action.submits : Action → Option String
  | .submitQueryResult id .. => some id
  | .submitEscrowResult queryId .. => some queryId
  | _ => none

def Action.isSubmitQueryResult : Action → Bool
  | .submitQueryResult .. => true
  | _ => false

def Pending.verification : Pending → Option QuorumRequest
  | .submitResult p => some p.request
  | .escrowVerify p => some p.request
  | _ => none

/-- No attestation comes out: the result carries none, or an Oracle that was asked rejects. -/
def Unattested (request : QuorumRequest) : Answer → Prop
  | .attestations atts => ∃ v, request.reply atts = some v ∧ v.attestations = []
  | .rejected => request.asked ≠ []
  | _ => False

/-- A step of this call, or of the preimage store on its behalf. -/
def OwnStep (call : Nat) : State → Action → Prop := fun _ a =>
  (∃ answer now, a = .resume call answer now) ∨ a = .serve call

/-- The submission `a` is made in `s`, its verification yields no attestation, and `s'` is where
the call has settled. Nothing else happens meanwhile. -/
structure UnattestedCall (deps : ServiceDeps) (s : State) (a : Action) (s' : State) : Prop where
  fresh : s.calls.get? s.nextCall = none
  settled : s'.calls.get? s.nextCall = none
  turns : ∃ s₁ s₂ evs₁ evs₂ tr p request answer now,
    step deps s a = some (s₁, evs₁) ∧ s₁.calls.get? s.nextCall = some p ∧
    p.verification = some request ∧ Unattested request answer ∧
    step deps s₁ (.resume s.nextCall answer now) = some (s₂, evs₂) ∧
    Run (queryService deps) (OwnStep s.nextCall) s₂ tr s'

/-- The query has the status and payment status it had. -/
def SameStatus (s s' : State) (id : String) : Prop :=
  (s'.store.get? id).map (fun q => (q.status, q.paymentStatus)) =
    (s.store.get? id).map fun q => (q.status, q.paymentStatus)

/-- The quorum wants no approvals, and no Oracle is found to be asked. -/
def AsksNobody (registry : Option OracleRegistry) (query : Query) : Prop :=
  ∃ r quorum, registry = some r ∧ query.quorum = some quorum ∧ quorum.minApprovals ≤ 0 ∧
    r.resolveMultiple query.oracleIds (quorum.minApprovals + 2) = []

/-! ## The verdict of a verification without attestations -/

variable {registry : Option OracleRegistry} {query : Query} {atts : List OracleAttestation}
  {v : QuorumVerificationResult} {oracleId : Option String} {deps : ServiceDeps} {now : JsNumber}
  {call : Nat} {s s' : State} {answer : Answer} {p : Pending} {turn : Turn}
  {blossomKeys : Option BlossomKeyMap} {result : QueryResult} {id : String}

theorem not_asksNobody_of_quorum_none (hq : query.quorum = none) : ¬AsksNobody registry query := by
  rintro ⟨r, quorum, -, hsome, -⟩
  rw [hq] at hsome
  cases hsome

theorem asksNobody_iff {r : OracleRegistry} {quorum : QuorumConfig}
    (hq : query.quorum = some quorum) :
    AsksNobody (some r) query ↔
      quorum.minApprovals ≤ 0 ∧
        r.resolveMultiple query.oracleIds (quorum.minApprovals + 2) = [] := by
  constructor
  · rintro ⟨r', quorum', hr, hq', hmin, hnone⟩
    cases hr
    obtain rfl := Option.some.inj (hq.symm.trans hq')
    exact ⟨hmin, hnone⟩
  · rintro ⟨hmin, hnone⟩
    exact ⟨r, quorum, rfl, hq, hmin, hnone⟩

theorem QuorumRequest.reply_settled {result : QuorumVerificationResult}
    (h : (QuorumRequest.settled result).reply atts = some v) :
    v = result := by
  unfold reply at h
  split at h
  · cases h
  · exact (Option.some.inj h).symm

theorem QuorumRequest.reply_single {o : Oracle} (h : (QuorumRequest.single o).reply atts = some v) :
    v.attestations ≠ [] := by
  unfold reply at h
  split at h
  · cases h
  · cases atts with
    | nil => cases h
    | cons att rest =>
      cases h
      exact List.cons_ne_nil _ _

theorem QuorumRequest.reply_quorum {os : List Oracle} {minApprovals : Int}
    (h : (QuorumRequest.quorum os minApprovals).reply atts = some v) (hnone : v.attestations = []) :
    os = [] ∧ v.passed = decide (minApprovals ≤ 0) := by
  unfold reply at h
  split at h
  · cases h
  · next hlen =>
    cases h
    obtain rfl : atts = [] := List.map_eq_nil_iff.mp hnone
    have hos : 0 = os.length := by simpa [asked] using hlen
    exact ⟨List.length_eq_zero_iff.mp hos.symm, rfl⟩

variable {P : Platform} {evs : List Event} {submissionMeta : SubmissionMeta} {store : QueryStore}
  {queryId pk : String}

/-- Such a verification passes only if its quorum asks nobody for nothing. -/
theorem passed_iff_asksNobody
    (h : (verifyWithQuorum P registry query oracleId).reply atts = some v)
    (hnone : v.attestations = []) : v.passed = true ↔ AsksNobody registry query := by
  unfold verifyWithQuorum at h
  dsimp only at h
  cases hq : query.quorum with
  | none =>
    rw [hq] at h
    dsimp only at h
    refine iff_of_false ?_ (not_asksNobody_of_quorum_none hq)
    unfold verifySingleOracle at h
    split at h
    · exact absurd hnone (QuorumRequest.reply_single h)
    · rw [QuorumRequest.reply_settled h]
      simp [unavailable]
  | some quorum =>
    rw [hq] at h
    dsimp only at h
    unfold verifyQuorum at h
    cases registry with
    | none =>
      rw [QuorumRequest.reply_settled h]
      refine iff_of_false (by simp [unavailable]) ?_
      rintro ⟨r, -, hr, -⟩
      cases hr
    | some r =>
      rw [asksNobody_iff hq]
      dsimp only at h
      split at h
      · next hfew =>
        rw [QuorumRequest.reply_settled h]
        refine iff_of_false (by simp [unavailable]) ?_
        rintro ⟨hmin, hempty⟩
        rw [hempty] at hfew
        have : (([] : List Oracle).length : Int) = 0 := rfl
        omega
      · obtain ⟨hempty, hpassed⟩ := QuorumRequest.reply_quorum h hnone
        rw [hpassed, decide_eq_true_iff]
        exact ⟨fun hmin => ⟨hmin, hempty⟩, And.left⟩

theorem not_asksNobody_of_asked (h : (verifyWithQuorum P registry query oracleId).asked ≠ []) :
    ¬AsksNobody registry query := by
  rintro ⟨r, quorum, rfl, hq, hmin, hempty⟩
  refine h ?_
  simp only [verifyWithQuorum, hq, verifyQuorum, hempty]
  split <;> rfl

/-! ## Past its commit, a call leaves the store alone -/

theorem turn_of_step (hp : s.calls.get? call = some p)
    (h : step deps s (.resume call answer now) = some (s', evs)) :
    ∃ turn, p.resume deps call now answer = some turn ∧ s' = (s.continue call turn).1 := by
  simp only [step, hp] at h
  obtain ⟨turn, hturn, heq⟩ := Option.map_eq_some_iff.mp h
  exact ⟨turn, hturn, (congrArg Prod.fst heq).symm⟩

theorem pending_of_continue (h : (s.continue call turn).1.calls.get? call = some p) :
    turn.pending = some p := by
  cases hpend : turn.pending with
  | none => simp [State.continue, hpend] at h
  | some q => simpa [State.continue, hpend] using h

theorem ownStep_store {a : Action} (hown : OwnStep call s a)
    (hstep : step deps s a = some (s', evs))
    (h : ∀ p, s.calls.get? call = some p → p.snapshot = none) :
    s'.store = s.store ∧ ∀ p, s'.calls.get? call = some p → p.snapshot = none := by
  rcases hown with ⟨answer, now, rfl⟩ | rfl
  · cases hp : s.calls.get? call with
    | none => simp [step, hp] at hstep
    | some p =>
      obtain ⟨turn, hturn, rfl⟩ := turn_of_step hp hstep
      have hwrite : turn.write = none := by
        cases hw : turn.write with
        | none => rfl
        | some w =>
          obtain ⟨-, query, hsnap, -⟩ := resume_write hturn hw
          rw [h p hp] at hsnap
          cases hsnap
      refine ⟨by simp [State.continue, hwrite, commit], fun p' hp' => ?_⟩
      rcases resume_pending hturn (pending_of_continue hp') with hsame | hnone
      · rw [hsame, h p hp]
      · exact hnone
  · simp only [step] at hstep
    split at hstep
    · cases hstep
    · next p hp =>
      unfold State.serve at hstep
      split at hstep
      · obtain rfl : _ = s' := congrArg Prod.fst (Option.some.inj hstep)
        refine ⟨rfl, fun p' hp' => ?_⟩
        rw [JsMap.get?_set_self] at hp'
        rw [← Option.some.inj hp']
        rfl
      · obtain rfl : _ = s' := congrArg Prod.fst (Option.some.inj hstep)
        refine ⟨rfl, fun p' hp' => ?_⟩
        rw [JsMap.get?_set_self] at hp'
        rw [← Option.some.inj hp']
        rfl
      · cases hstep

theorem ownRun_store {tr : List Event} (h : ∀ p, s.calls.get? call = some p → p.snapshot = none)
    (hrun : Run (queryService deps) (OwnStep call) s tr s') : s'.store = s.store := by
  have hinv : s'.store = s.store ∧ ∀ p, s'.calls.get? call = some p → p.snapshot = none := by
    refine Run.invariant (I := fun _ t => t.store = s.store ∧
      ∀ p, t.calls.get? call = some p → p.snapshot = none) ⟨rfl, h⟩ ?_ hrun
    intro tr t a t' evs ih hown hstep
    obtain ⟨hstore, hcalls⟩ := ownStep_store hown hstep ih.2
    exact ⟨hstore.trans ih.1, hcalls⟩
  exact hinv.1

/-! ## The two submissions -/

/-- A submission that reaches its verification has written nothing so far. -/
theorem doSubmitQueryResult_pending (hget : store.get? id = some query)
    (h : (doSubmitQueryResult deps store registry call id result submissionMeta oracleId blossomKeys
      now).pending = some p) :
    (doSubmitQueryResult deps store registry call id result submissionMeta oracleId blossomKeys
      now).write = none ∧
    query.status = .pending ∧
    ∃ p₀ : Submission, p = .submitResult p₀ ∧ p₀.id = id ∧ p₀.query = query ∧
      p₀.request = verifyWithQuorum deps.platform registry query oracleId := by
  unfold doSubmitQueryResult at h ⊢
  rw [hget] at h ⊢
  dsimp only at h ⊢
  by_cases hs : query.status = .pending
  · rw [if_neg (not_not.mpr hs)] at h ⊢
    split at h
    · cases h
    · next hexpired =>
      rw [if_neg hexpired]
      exact ⟨rfl, hs, _, (Option.some.inj h).symm, rfl, rfl, rfl⟩
  · rw [if_pos hs] at h
    cases h

/-- A submission with an escrow that reaches its verification has stored `verifying`. -/
theorem doSubmitEscrowResult_pending (hget : store.get? queryId = some query)
    (h : (doSubmitEscrowResult deps store registry call queryId result pk oracleId blossomKeys
      now).pending = some p) :
    query.status = .processing ∧
    ∃ p₀ : EscrowSubmission, p = .escrowVerify p₀ ∧ p₀.queryId = queryId ∧
      p₀.verifyingQuery.status = .verifying ∧
      (doSubmitEscrowResult deps store registry call queryId result pk oracleId blossomKeys
        now).write = some (queryId, p₀.verifyingQuery) := by
  unfold doSubmitEscrowResult at h ⊢
  rw [hget] at h ⊢
  dsimp only at h ⊢
  split at h
  · cases h
  · next hescrow =>
    rw [if_neg hescrow]
    split at h
    · cases h
    · next verifyingQuery hok =>
      obtain ⟨escrow, -, hs, -, hquery⟩ := recordResult_ok hok
      exact ⟨hs, _, (Option.some.inj h).symm, rfl, by rw [hquery], rfl⟩

/-- A verification that was awaited is the last thing before the commit. -/
theorem snapshot_after_verification {p' : Pending} {request : QuorumRequest}
    (hrequest : p.verification = some request) (h : p.resume deps call now answer = some turn)
    (hp : turn.pending = some p') : p'.snapshot = none := by
  cases resumes_of_resume h with
  | submitted =>
    unfold Submission.finish at hp
    split at hp <;> cases hp
  | verified =>
    obtain ⟨-, hsettle⟩ := EscrowSubmission.finish_pending hp
    rcases settle_pending hsettle with ⟨hash, escrow, -, -, rfl⟩ | rfl <;> rfl
  | threw => cases hp
  | amountChecked | lockChecked | gotPreimage | deletedPreimage | gotSignature => cases hrequest

theorem Submission.resume_unattested {p : Submission}
    (hrequest : p.request = verifyWithQuorum deps.platform registry p.query oracleId)
    (hnone : Unattested p.request answer)
    (h : (Pending.submitResult p).resume deps call now answer = some turn) :
    (¬AsksNobody registry p.query ∧ turn.write = none) ∨
      (AsksNobody registry p.query ∧
        ∃ final, turn.write = some (p.id, final) ∧ final.status = .approved) := by
  cases resumes_of_resume h with
  | @submitted _ atts v hreply =>
    obtain ⟨v', hreply', hempty⟩ := hnone
    obtain rfl := Option.some.inj (hreply.symm.trans hreply')
    rw [hrequest] at hreply
    have hpassed := passed_iff_asksNobody hreply hempty
    by_cases hv : v.passed = true
    · refine .inr ⟨hpassed.mp hv, ?_⟩
      simp [Submission.finish, Query.finalized, hv]
    · refine .inl ⟨fun hasks => hv (hpassed.mpr hasks), ?_⟩
      simp [Submission.finish, hv, hempty]
  | threw =>
    refine .inl ⟨?_, rfl⟩
    have hasked : p.request.asked ≠ [] := hnone
    rw [hrequest] at hasked
    exact not_asksNobody_of_asked hasked

theorem EscrowSubmission.resume_write {p : EscrowSubmission}
    (h : (Pending.escrowVerify p).resume deps call now answer = some turn) :
    turn.write = none ∨ ∃ v, turn.write = some (p.queryId, p.verifyingQuery.finalized v) := by
  cases resumes_of_resume h with
  | verified => exact .inr ⟨_, rfl⟩
  | threw => exact .inl rfl

theorem Query.finalized_status (query : Query) (v : QuorumVerificationResult) :
    (query.finalized v).status = .approved ∨ (query.finalized v).status = .rejected := by
  unfold finalized
  cases v.passed
  · exact .inr rfl
  · exact .inl rfl

/-! ## The record afterwards -/

theorem sameStatus_of_store_eq (h : s'.store = s.store) (id : String) :
    SameStatus s s' id := by
  rw [SameStatus, h]

theorem not_sameStatus {query' : Query} (hget : s.store.get? id = some query)
    (hget' : s'.store.get? id = some query') (hne : query'.status ≠ query.status) :
    ¬SameStatus s s' id := by
  intro h
  rw [SameStatus, hget, hget'] at h
  exact hne (Prod.mk.inj (Option.some.inj h)).1

theorem submitQueryResult_keeps_iff (hget : s.store.get? id = some query)
    (h : UnattestedCall deps s
      (.submitQueryResult id result submissionMeta oracleId blossomKeys now) s') :
    SameStatus s s' id ↔ ¬AsksNobody s.registry query := by
  obtain ⟨hfresh, -, s₁, s₂, evs₁, evs₂, tr, p, request, answer, now', hbegin, hp, hrequest, hnone,
    hresume, hrest⟩ := h
  obtain rfl : (s.begin _).1 = s₁ := congrArg Prod.fst (Option.some.inj hbegin)
  obtain ⟨turn, hturn, rfl⟩ := turn_of_step hp hresume
  have hafter := ownRun_store (fun p' hp' =>
    snapshot_after_verification hrequest hturn (pending_of_continue hp')) hrest
  have hpending := (calls_begin hp).resolve_right (by rw [hfresh]; exact nofun)
  obtain ⟨hwrite, hs, p₀, rfl, rfl, rfl, hask⟩ := doSubmitQueryResult_pending hget hpending.2
  -- the first turn wrote nothing, so the store is the one the call started with
  have hstore : s'.store = commit s.store turn.write := by
    rw [hafter]
    simp only [State.continue, State.begin, hwrite, commit]
  cases hrequest
  rcases p₀.resume_unattested hask hnone hturn with ⟨hasks, hw⟩ | ⟨hasks, final, hw, hfinal⟩
  · rw [hw] at hstore
    exact iff_of_true (sameStatus_of_store_eq hstore _) hasks
  · rw [hw] at hstore
    have hget' : s'.store.get? p₀.id = some final := by
      rw [hstore]
      exact JsMap.get?_set_self _ _ _
    refine iff_of_false (not_sameStatus hget hget' ?_) (not_not.mpr hasks)
    rw [hfinal, hs]
    decide

theorem submitEscrowResult_not_kept (hget : s.store.get? queryId = some query)
    (h : UnattestedCall deps s
      (.submitEscrowResult queryId result pk oracleId blossomKeys now) s') :
    ¬SameStatus s s' queryId := by
  obtain ⟨hfresh, -, s₁, s₂, evs₁, evs₂, tr, p, request, answer, now', hbegin, hp, hrequest, hnone,
    hresume, hrest⟩ := h
  obtain rfl : (s.begin _).1 = s₁ := congrArg Prod.fst (Option.some.inj hbegin)
  obtain ⟨turn, hturn, rfl⟩ := turn_of_step hp hresume
  have hafter := ownRun_store (fun p' hp' =>
    snapshot_after_verification hrequest hturn (pending_of_continue hp')) hrest
  have hpending := (calls_begin hp).resolve_right (by rw [hfresh]; exact nofun)
  obtain ⟨hs, p₀, rfl, rfl, hverifying, hwrite⟩ := doSubmitEscrowResult_pending hget hpending.2
  have hstore : s'.store =
      commit (s.store.set p₀.queryId p₀.verifyingQuery) turn.write := by
    rw [hafter]
    simp only [State.continue, State.begin, hwrite, commit]
  -- `verifying` stays where the promise rejects, and a verdict replaces it where it does not
  rcases p₀.resume_write hturn with hw | ⟨v, hw⟩
  · rw [hw] at hstore
    refine not_sameStatus hget (by rw [hstore]; exact JsMap.get?_set_self _ _ _) ?_
    rw [hverifying, hs]
    decide
  · rw [hw] at hstore
    refine not_sameStatus hget (by rw [hstore]; exact JsMap.get?_set_self _ _ _) ?_
    rcases p₀.verifyingQuery.finalized_status v with hv | hv <;> rw [hv, hs] <;> decide

/--
For every stored query, every registry and all answers: after a submission whose verification
yields no attestation, and with no other call meanwhile, the record has the `status` and the
`payment_status` it had before exactly when it is a `submitQueryResult` and its quorum, if it has
one, does not ask for nothing from nobody.
-/
theorem unattested_keeps_iff {deps : ServiceDeps} {s s' : State} {a : Action} {id : String}
    {query : Query} (hsubmits : a.submits = some id) (hget : s.store.get? id = some query)
    (h : UnattestedCall deps s a s') :
    SameStatus s s' id ↔ a.isSubmitQueryResult = true ∧ ¬AsksNobody s.registry query := by
  cases a with
  | submitQueryResult =>
    cases hsubmits
    rw [submitQueryResult_keeps_iff hget h]
    simp [Action.isSubmitQueryResult]
  | submitEscrowResult =>
    cases hsubmits
    refine iff_of_false (submitEscrowResult_not_kept hget h) ?_
    simp [Action.isSubmitQueryResult]
  | _ => cases hsubmits

/-- Two Oracles are wanted, and one is registered. -/
def twoWanted : State :=
  .holding (quorumQuery ["a", "b"] 2) (some (OracleRegistry.empty.register ⟨"a"⟩)) .empty

def plainSubmission : Action :=
  .submitQueryResult "q" { attachments := [] } { executorType := .human } none none (.ofInt 1)

/-- The submission fails and can be made again. -/
theorem unattested_keeps_too_few :
    ∃ s', UnattestedCall (.wired false false false) twoWanted plainSubmission s' ∧
      SameStatus twoWanted s' "q" := by
  have hcall : ∃ s', UnattestedCall (.wired false false false) twoWanted plainSubmission s' :=
    ⟨_, rfl, rfl, _, _, _, _, _, _, _, .attestations [], .ofInt 2, rfl, rfl, rfl, ⟨_, rfl, rfl⟩,
      rfl, .start⟩
  obtain ⟨s', hs'⟩ := hcall
  refine ⟨s', hs', (unattested_keeps_iff rfl rfl hs').mpr ⟨rfl, ?_⟩⟩
  rw [twoWanted, State.holding, State.init, asksNobody_iff rfl]
  decide

/-- A query in work. -/
def providerAtWork (registry : OracleRegistry) : State :=
  .holding (escrowQuery .processing { openEscrow (.htlc "h") with providerPubkey := some "pk" })
    (some registry) .empty

def providerSubmission : Action :=
  .submitEscrowResult "q" { attachments := [] } "pk" (some "a") none (.ofInt 1)

/-- The only listed Oracle is not registered, and the query is rejected and its payment cancelled;
or it is and rejects the promise, and the query stays where no submission is accepted. -/
theorem unattested_escrow_submission :
    (∃ s', UnattestedCall (.wired false false false) (providerAtWork .empty) providerSubmission s' ∧
      (s'.store.get? "q").map (fun q => (q.status, q.paymentStatus)) =
        some (.rejected, .cancelled) ∧
      ¬SameStatus (providerAtWork .empty) s' "q") ∧
    ∃ s', UnattestedCall (.wired false false false) (providerAtWork (.register .empty ⟨"a"⟩))
        providerSubmission s' ∧
      (s'.store.get? "q").map (fun q => (q.status, q.paymentStatus)) =
        some (.verifying, .escrowLocked) ∧
      ¬SameStatus (providerAtWork (.register .empty ⟨"a"⟩)) s' "q" := by
  constructor
  · refine ⟨_, ⟨rfl, rfl, _, _, _, _, _, _, _, .attestations [], .ofInt 2, rfl, rfl, rfl,
      ⟨_, rfl, rfl⟩, rfl, .start⟩, rfl, ?_⟩
    exact not_sameStatus rfl rfl (by decide)
  · refine ⟨_, ⟨rfl, rfl, _, _, _, _, _, _, _, .rejected, .ofInt 2, rfl, rfl, rfl,
      List.cons_ne_nil _ _, rfl, .start⟩, rfl, ?_⟩
    exact not_sameStatus rfl rfl (by decide)

end Anchr.Requests
