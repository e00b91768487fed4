import Anchr.Requests.Properties.Coherence

/-!
# The service and the aggregate

Four operations are written twice, in the service and in the aggregate.
-/

namespace Anchr.Requests

open Infra

/-! ## The two sides -/

/-- Whether a call was refused, and the record it stored. -/
structure Served where
  refused : Bool
  stored : Option Query

def Served.ofAggregate : Except String Query → Served
  | .ok query => { refused := false, stored := some query }
  | .error _ => { refused := true, stored := none }

/-- A call whose first turn is this one, and which gets the attestations next, at `now`. One that
is not suspended has been refused. No later turn writes a record. -/
def Turn.served (deps : ServiceDeps) (call : Nat) (now : JsNumber) (atts : List OracleAttestation)
    (turn : Turn) : Option Served :=
  match turn.pending with
  | none => some { refused := true, stored := turn.write.map Prod.snd }
  | some p =>
    (p.resume deps call now (.attestations atts)).map fun next =>
      { refused := false, stored := next.write.map Prod.snd }

/-- The result of the verification, if there is one. -/
def Pending.VerifiedAs (atts : List OracleAttestation) (v : QuorumVerificationResult) :
    Pending → Prop
  | .submitResult p => p.request.reply atts = some v
  | .escrowVerify p => p.request.reply atts = some v
  | _ => True

section

variable (deps : ServiceDeps) (s : State) (id : String) (query : Query) (result : QueryResult)
  (oracleId : Option String) (blossomKeys : Option BlossomKeyMap) (now : JsNumber)
  (atts : List OracleAttestation) (v : QuorumVerificationResult)

/-- The turn with which `submitQueryResult` begins. -/
def submitTurn (submissionMeta : SubmissionMeta) : Turn :=
  doSubmitQueryResult deps s.store s.registry s.nextCall id result submissionMeta oracleId
    blossomKeys now

/-- The turn with which `submitEscrowResult` begins. -/
def escrowTurn (providerPubkey : String) : Turn :=
  doSubmitEscrowResult deps s.store s.registry s.nextCall id result providerPubkey oracleId
    blossomKeys now

/-- `submitQueryResult` does what `submitResult` does. The deadline is looked at when the call
begins; the record is dated when it ends, at `later`. -/
def SubmitRefines (submissionMeta : SubmissionMeta) (later : JsNumber) : Prop :=
  (submitTurn deps s id result oracleId blossomKeys now submissionMeta).served deps s.nextCall later
      atts =
    some (.ofAggregate (submitResult query (deps.normalizeResult result) v.verification
      submissionMeta oracleId (some v.attestations) blossomKeys later))

/-- `submitEscrowResult` does what `recordResult` and `completeVerification` do. -/
def EscrowRefines (providerPubkey : String) (later : JsNumber) : Prop :=
  (escrowTurn deps s id result oracleId blossomKeys now providerPubkey).served deps s.nextCall later
      atts =
    some (.ofAggregate ((recordResult query (deps.normalizeResult result) providerPubkey blossomKeys
      now).bind fun recorded =>
        completeVerification recorded v.verification.passed (some v.verification) oracleId
          (some v.attestations)))

/-- The service cancels as the aggregate does. -/
def CancelRefines : Prop :=
  { refused := !(doCancelQuery s.store id).2.ok
    stored := (doCancelQuery s.store id).1.map Prod.snd : Served } =
      .ofAggregate (cancelQuery query)

/-- The record is what `expireQuery` makes of it; where that refuses, it stays. -/
def ExpireRefines : Prop :=
  (doExpireQueries s.store now).1.get? id = some ((expireQuery query now).toOption.getD query)

end

/-! ## Verdicts -/

section

variable {P : Platform} {registry : Option OracleRegistry} {query : Query}
  {oracleId : Option String} {atts : List OracleAttestation} {v : QuorumVerificationResult}

theorem reply_passed {request : QuorumRequest} (h : request.reply atts = some v)
    (hsettled : ∀ result, request = .settled result → result.verification.passed = result.passed) :
    v.verification.passed = v.passed := by
  unfold QuorumRequest.reply at h
  split at h
  · cases h
  · split at h
    · next result _ =>
      rw [← Option.some.inj h]
      exact hsettled _ rfl
    · rw [← Option.some.inj h]
    · cases h
    · rw [← Option.some.inj h]
      rfl

theorem verifyWithQuorum_passed
    (h : (verifyWithQuorum P registry query oracleId).reply atts = some v) :
    v.verification.passed = v.passed := by
  refine reply_passed h fun result hsettled => ?_
  unfold verifyWithQuorum at hsettled
  dsimp only at hsettled
  split at hsettled
  · unfold verifySingleOracle at hsettled
    split at hsettled
    · cases hsettled
    · rw [← QuorumRequest.settled.inj hsettled]
      rfl
  · unfold verifyQuorum at hsettled
    split at hsettled
    · rw [← QuorumRequest.settled.inj hsettled]
      rfl
    · dsimp only at hsettled
      split at hsettled
      · rw [← QuorumRequest.settled.inj hsettled]
        rfl
      · cases hsettled

end

/-! ## One operation after the other -/

section

variable {deps : ServiceDeps} {s : State} {id : String} {query : Query} {result : QueryResult}
  {oracleId : Option String} {blossomKeys : Option BlossomKeyMap} {now later : JsNumber}
  {atts : List OracleAttestation} {v : QuorumVerificationResult}

variable {attestations : List OracleAttestationRecord}

theorem head_or (hsome : attestations ≠ []) (oracleId : Option String) :
    ((attestations.head?.map OracleAttestationRecord.oracleId).or oracleId) =
      attestations.head?.map OracleAttestationRecord.oracleId := by
  cases attestations with
  | nil => exact absurd rfl hsome
  | cons first rest => rfl

theorem head_or_eq_iff (hsome : attestations ≠ []) :
    oracleId.or (attestations.head?.map OracleAttestationRecord.oracleId) =
        attestations.head?.map OracleAttestationRecord.oracleId ↔
      oracleId = none ∨ oracleId = attestations.head?.map OracleAttestationRecord.oracleId := by
  cases attestations with
  | nil => exact absurd rfl hsome
  | cons first rest => cases oracleId <;> simp

theorem served_submission {p : Submission} (hreply : p.request.reply atts = some v)
    (hsome : v.attestations ≠ []) (call : Nat) :
    Turn.served deps call later atts { pending := some (.submitResult p) } =
      some
        { refused := false
          stored := some
            { p.query.finalized v with
              submittedAt := some later
              result := some p.normalizedResult
              submissionMeta := some p.submissionMeta
              blossomKeys := p.blossomKeys } } := by
  have hattested : (!v.passed && v.attestations.isEmpty) = false := by simp [hsome]
  simp only [Turn.served, Pending.resume, hreply, Option.map_some, Submission.finish, hattested,
    Bool.false_eq_true, if_false]

theorem submitRefines_iff {submissionMeta : SubmissionMeta}
    (hget : s.store.get? id = some query) (hplain : query.status = .pending → query.escrow = none)
    (hverified : ∀ p, (submitTurn deps s id result oracleId blossomKeys now submissionMeta).pending =
      some p → p.VerifiedAs atts v) (hsome : v.attestations ≠ []) :
    SubmitRefines deps s id query result oracleId blossomKeys now atts v submissionMeta later ↔
      (query.status = .pending →
        query.expiresAt.lt now = false ∧ query.expiresAt.lt later = false) := by
  unfold SubmitRefines submitTurn doSubmitQueryResult at *
  rw [hget] at hverified ⊢
  dsimp only at hverified ⊢
  by_cases hpending : query.status = .pending
  · have hnone : ¬query.escrow.isSome = true := by simp [hplain hpending]
    rw [if_neg (not_not_intro hpending)] at hverified ⊢
    unfold submitResult
    rw [if_neg hnone, if_neg (not_not_intro hpending)]
    by_cases hpast : query.expiresAt.lt now = true
    · -- the service refuses, and the aggregate does not
      rw [if_pos hpast]
      split <;> simp [Turn.served, Served.ofAggregate, hpending, hpast]
    · rw [if_neg hpast] at hverified ⊢
      have hreply := hverified _ rfl
      have hpassed := verifyWithQuorum_passed hreply
      rw [served_submission hreply hsome]
      split
      · next hexpired =>
        -- the deadline passes during the verification
        have hstatus : (query.finalized v).status ≠ .expired := by
          unfold Query.finalized
          dsimp only
          split <;> simp
        constructor
        · intro h
          have hsame := congrArg (fun x : Served => x.stored.map (·.status)) (Option.some.inj h)
          exact absurd (Option.some.inj hsame) hstatus
        · intro h
          have hlater := (h hpending).2
          rw [hexpired] at hlater
          cases hlater
      · next hexpired =>
        refine iff_of_true ?_ fun _ => ⟨by simpa using hpast, by simpa using hexpired⟩
        simp only [Served.ofAggregate, Query.finalized, hpassed, Option.bind_some, head_or hsome]
  · rw [if_pos hpending]
    have herror : ∃ error, submitResult query (deps.normalizeResult result) v.verification
        submissionMeta oracleId (some v.attestations) blossomKeys later = .error error := by
      unfold submitResult
      by_cases hescrow : query.escrow.isSome = true
      · exact ⟨_, if_pos hescrow⟩
      · rw [if_neg hescrow, if_pos hpending]
        exact ⟨_, rfl⟩
    obtain ⟨error, herror⟩ := herror
    rw [herror]
    exact iff_of_true rfl fun h => absurd h hpending

theorem served_escrowSubmission {p : EscrowSubmission} (hreply : p.request.reply atts = some v)
    (call : Nat) {write : Write} {evs : List Event} :
    Turn.served deps call later atts
        { write := write, events := evs, pending := some (.escrowVerify p) } =
      some { refused := false, stored := some (p.verifyingQuery.finalized v) } := by
  simp only [Turn.served, Pending.resume, hreply, Option.map_some, EscrowSubmission.finish]

theorem escrowRefines_iff {providerPubkey : String} (hget : s.store.get? id = some query)
    (hverified : ∀ p, (escrowTurn deps s id result oracleId blossomKeys now providerPubkey).pending =
      some p → p.VerifiedAs atts v) (hsome : v.attestations ≠ []) :
    EscrowRefines deps s id query result oracleId blossomKeys now atts v providerPubkey later ↔
      (query.Accepts providerPubkey → oracleId = none ∨
        oracleId = v.attestations.head?.map OracleAttestationRecord.oracleId) := by
  unfold EscrowRefines escrowTurn doSubmitEscrowResult at *
  rw [hget] at hverified ⊢
  dsimp only at hverified ⊢
  by_cases haccepts : query.Accepts providerPubkey
  · obtain ⟨hstatus, escrow, hescrow, hprovider⟩ := haccepts
    have hrecorded := recordResult_accepts ⟨hstatus, escrow, hescrow, hprovider⟩
      (deps.normalizeResult result) blossomKeys now
    have hsomeEscrow : ¬query.escrow.isNone = true := by simp [hescrow]
    rw [if_neg hsomeEscrow, hrecorded] at hverified ⊢
    dsimp only at hverified ⊢
    have hreply := hverified _ rfl
    have hpassed := verifyWithQuorum_passed hreply
    rw [served_escrowSubmission hreply]
    show some _ = some (Served.ofAggregate (completeVerification _ _ _ _ _)) ↔ _
    rw [completeVerification_accepts (by simp [hescrow]) rfl]
    constructor
    · intro h _
      -- only the Oracle that is named can differ
      have hsame := congrArg (fun x : Served => x.stored.map (·.assignedOracleId))
        (Option.some.inj h)
      rw [← head_or_eq_iff hsome]
      exact (Option.some.inj hsame).symm
    · intro h
      have hsame := (head_or_eq_iff hsome).mpr (h ⟨hstatus, escrow, hescrow, hprovider⟩)
      simp only [Served.ofAggregate, Query.finalized, hpassed, Option.bind_some, hsame,
        Option.some_or]
  · refine iff_of_true ?_ fun h => absurd h haccepts
    obtain ⟨error, herror⟩ := recordResult_error haccepts (deps.normalizeResult result) blossomKeys
      now
    rw [herror]
    split <;> rfl

theorem cancelRefines (hget : s.store.get? id = some query) : CancelRefines s id query := by
  unfold CancelRefines doCancelQuery cancelQuery
  rw [hget]
  dsimp only
  split <;> rfl

theorem expireRefines_iff (hkeyed : KeyedStore s.store) (hget : s.store.get? id = some query) :
    ExpireRefines s id query now ↔
      (isExpirable query.status = true → query.expiresAt ≠ .nan ∧ now ≠ .nan) := by
  unfold ExpireRefines
  rw [get?_doExpireQueries hkeyed, hget, Option.map_some]
  unfold Query.expireIfDue
  by_cases hexpirable : isExpirable query.status = true
  · -- both look at the deadline, from opposite sides
    have haggregate : expireQuery query now =
        if now.le query.expiresAt then .error "Query has not expired yet" else .ok query.expired := by
      unfold expireQuery
      rw [hexpirable]
      rfl
    have hchanged : query.expired ≠ query := by
      intro h
      rw [← h] at hexpirable
      cases hexpirable
    rw [← JsNumber.lt_eq_not_le_iff, haggregate, hexpirable]
    cases hdue : query.expiresAt.lt now <;> cases hnot : now.le query.expiresAt <;>
      simp [Except.toOption, hchanged, hchanged.symm]
  · simp [expireQuery, hexpirable, Except.toOption]

end

/--
In every state the service can reach, for every stored record and every result, Oracle behaviour and
clock: run by itself, with at least one attestation, `submitQueryResult` does what `submitResult`
does if and only if the record is not `pending` or its deadline has passed at neither reading of the
clock; `submitEscrowResult` does what `recordResult` and `completeVerification` do if and only if
the record does not accept the result, or no Oracle is named in the call, or the one the first
attestation names; `cancelQuery` always does what the aggregate does; and `expireQueries` does so if
and only if the record cannot expire or neither its deadline nor the clock is NaN.
-/
theorem service_refines_aggregate_iff (deps : ServiceDeps) (registry : Option OracleRegistry)
    (preimages : JsMap String String) (tr : List Event) (s : State)
    (h : Run (queryService deps) AnyStep (State.init registry preimages) tr s) (id : String)
    (query : Query) (hget : s.store.get? id = some query) :
    (∀ result submissionMeta oracleId blossomKeys now later atts v,
      (∀ p, (submitTurn deps s id result oracleId blossomKeys now submissionMeta).pending = some p →
        p.VerifiedAs atts v) → v.attestations ≠ [] →
      (SubmitRefines deps s id query result oracleId blossomKeys now atts v submissionMeta later ↔
        (query.status = .pending →
          query.expiresAt.lt now = false ∧ query.expiresAt.lt later = false))) ∧
    (∀ result providerPubkey oracleId blossomKeys now later atts v,
      (∀ p, (escrowTurn deps s id result oracleId blossomKeys now providerPubkey).pending = some p →
        p.VerifiedAs atts v) → v.attestations ≠ [] →
      (EscrowRefines deps s id query result oracleId blossomKeys now atts v providerPubkey later ↔
        (query.Accepts providerPubkey → oracleId = none ∨
          oracleId = v.attestations.head?.map OracleAttestationRecord.oracleId))) ∧
    CancelRefines s id query ∧
    ∀ now, ExpireRefines s id query now ↔
      (isExpirable query.status = true → query.expiresAt ≠ .nan ∧ now ≠ .nan) := by
  have hcoherent : Coherent query := ((coherent_recordInvariant deps).run h).store id query hget
  have hkeyed : Keyed s := keyed_of_run (Keyed.init registry preimages) h
  refine ⟨?_, ?_, cancelRefines hget, fun now => expireRefines_iff hkeyed.keyedStore hget⟩
  · intro result submissionMeta oracleId blossomKeys now later atts v hverified hsome
    exact submitRefines_iff hget hcoherent.pending hverified hsome
  · intro result providerPubkey oracleId blossomKeys now later atts v hverified hsome
    exact escrowRefines_iff hget hverified hsome

/-! ## Runs -/

/-- The verdict on these attestations. -/
def Pending.verdict (atts : List OracleAttestation) : Pending → Option QuorumVerificationResult
  | .submitResult p => p.request.reply atts
  | .escrowVerify p => p.request.reply atts
  | _ => none

/-- The call is suspended, and these attestations decide it; at least one is recorded. -/
def Turn.attested (atts : List OracleAttestation) (turn : Turn) : Bool :=
  (turn.pending.bind (·.verdict atts)).any fun v => !v.attestations.isEmpty

theorem verifiedAs_of_attested {atts : List OracleAttestation} {turn : Turn}
    (h : turn.attested atts = true) :
    ∃ v, (∀ p, turn.pending = some p → p.VerifiedAs atts v) ∧ v.attestations ≠ [] ∧
      turn.pending.bind (·.verdict atts) = some v := by
  unfold Turn.attested at h
  cases hv : turn.pending.bind (·.verdict atts) with
  | none =>
    rw [hv] at h
    cases h
  | some v =>
    rw [hv] at h
    refine ⟨v, fun p hp => ?_, by simpa using h, rfl⟩
    rw [hp, Option.bind_some] at hv
    cases p with
    | submitResult => exact hv
    | escrowVerify => exact hv
    | _ => trivial

def approvals : List OracleAttestation := [Oracle.verdict ⟨"a"⟩ "q" true]

def plainTurn (s : State) (now : JsNumber) : Turn :=
  submitTurn bareDeps s "q" { attachments := [] } (some "a") none now { executorType := .human }

/-- A result that is handed in and approved in time is stored as the aggregate would. -/
theorem service_refines_aggregate_in_time : ∃ tr s query v,
    Run (queryService bareDeps) AnyStep oneOracle tr s ∧ s.store.get? "q" = some query ∧
      query.status = .pending ∧ v.attestations ≠ [] ∧
      SubmitRefines bareDeps s "q" query { attachments := [] } (some "a") none (.ofInt 1) approvals v
        { executorType := .human } (.ofInt 2) := by
  have hread : recordAfter bareDeps oneOracle (submitted.take 1) "q" (fun s query =>
      (query.status, query.expiresAt.lt (.ofInt 1), query.expiresAt.lt (.ofInt 2),
        (plainTurn s (.ofInt 1)).attested approvals)) = some (.pending, false, false, true) := by
    decide +kernel
  obtain ⟨tr, s, query, hrun, hget, hq⟩ := exists_of_recordAfter hread
  simp only [Prod.mk.injEq] at hq
  obtain ⟨hpending, hnow, hlater, hattested⟩ := hq
  obtain ⟨v, hverified, hsome, -⟩ := verifiedAs_of_attested hattested
  refine ⟨tr, s, query, v, hrun, hget, hpending, hsome, ?_⟩
  have hrefines := (service_refines_aggregate_iff _ _ _ tr s hrun "q" query hget).1
  exact (hrefines _ _ _ _ _ _ _ v hverified hsome).mpr fun _ => ⟨hnow, hlater⟩

def twoOracles : State :=
  State.init (some ((OracleRegistry.empty.register ⟨"a"⟩).register ⟨"b"⟩)) .empty

def quorumActions : List Action :=
  [.createQuery { description := "weather" }
      (some
        { oracleIds := some ["a", "b"]
          escrow := some (openEscrow (.htlc "h"))
          quorum := some { minApprovals := 1 } }) (.ofInt 0) "q" "n",
    .selectProvider "q" "pk" none, .beginWork "q"]

def bothApprove : List OracleAttestation :=
  [Oracle.verdict ⟨"a"⟩ "q" true, Oracle.verdict ⟨"b"⟩ "q" true]

/-- The Provider names the second Oracle. -/
def quorumTurn (s : State) : Turn :=
  escrowTurn bareDeps s "q" { attachments := [] } (some "b") none (.ofInt 1) "pk"

def nanQuery : Action :=
  .createQuery { description := "weather" } (some { ttlMs := some .nan }) (.ofInt 0) "q" "n"

theorem quorum_departs : ∃ tr s query v, Run (queryService bareDeps) AnyStep twoOracles tr s ∧
    s.store.get? "q" = some query ∧ (quorumTurn s).pending.bind (·.verdict bothApprove) = some v ∧
    v.attestations ≠ [] ∧
    ¬EscrowRefines bareDeps s "q" query { attachments := [] } (some "b") none (.ofInt 1)
      bothApprove v "pk" (.ofInt 2) := by
  have hread : recordAfter bareDeps twoOracles quorumActions "q" (fun s query =>
      (query.status, query.escrow.map (·.providerPubkey), (quorumTurn s).attested bothApprove,
        ((quorumTurn s).pending.bind (·.verdict bothApprove)).map fun v =>
          v.attestations.head?.map (·.oracleId))) =
      some (.processing, some (some "pk"), true, some (some "a")) := by decide +kernel
  obtain ⟨tr, s, query, hrun, hget, hq⟩ := exists_of_recordAfter hread
  simp only [Prod.mk.injEq] at hq
  obtain ⟨hstatus, hprovider, hattested, hfirst⟩ := hq
  obtain ⟨escrow, hescrow, hpk⟩ := Option.map_eq_some_iff.mp hprovider
  obtain ⟨v, hverified, hsome, hv⟩ := verifiedAs_of_attested hattested
  rw [hv, Option.map_some] at hfirst
  refine ⟨tr, s, query, v, hrun, hget, hv, hsome, fun hrefines => ?_⟩
  have haccepts : query.Accepts "pk" := ⟨hstatus, escrow, hescrow, fun _ => hpk⟩
  rcases (escrowRefines_iff hget hverified hsome).mp hrefines haccepts with hnone | hsame
  · cases hnone
  · rw [Option.some.inj hfirst] at hsame
    exact absurd hsame (by decide)

theorem late_departs : ∃ tr s query, Run (queryService bareDeps) AnyStep oneOracle tr s ∧
    s.store.get? "q" = some query ∧ ∀ v, v.attestations ≠ [] →
      ¬SubmitRefines bareDeps s "q" query { attachments := [] } (some "a") none (.ofInt 600001)
        approvals v { executorType := .human } (.ofInt 600001) := by
  have hread : recordAfter bareDeps oneOracle (submitted.take 1) "q" (fun s query =>
      (query.status, query.escrow.isNone, query.expiresAt.lt (.ofInt 600001),
        (plainTurn s (.ofInt 600001)).pending.isNone)) = some (.pending, true, true, true) := by
    decide +kernel
  obtain ⟨tr, s, query, hrun, hget, hq⟩ := exists_of_recordAfter hread
  simp only [Prod.mk.injEq] at hq
  obtain ⟨hpending, hescrow, hlate, hover⟩ := hq
  refine ⟨tr, s, query, hrun, hget, fun v hsome hrefines => ?_⟩
  have hverified : ∀ p, (plainTurn s (.ofInt 600001)).pending = some p →
      p.VerifiedAs approvals v := by
    intro p hp
    rw [hp] at hover
    cases hover
  have hplain : query.status = .pending → query.escrow = none :=
    fun _ => Option.isNone_iff_eq_none.mp hescrow
  obtain ⟨hnot, -⟩ := (submitRefines_iff hget hplain hverified hsome).mp hrefines hpending
  rw [hlate] at hnot
  cases hnot

theorem nan_departs : ∃ tr s query, Run (queryService bareDeps) AnyStep oneOracle tr s ∧
    s.store.get? "q" = some query ∧ ¬ExpireRefines s "q" query (.ofInt 1) := by
  have hread : recordAfter bareDeps oneOracle [nanQuery] "q" (fun _ query =>
      (isExpirable query.status, query.expiresAt)) = some (true, .nan) := by decide
  obtain ⟨tr, s, query, hrun, hget, hq⟩ := exists_of_recordAfter hread
  obtain ⟨hexpirable, hnan⟩ := Prod.mk.inj hq
  have hkeyed : Keyed s := keyed_of_run (Keyed.init _ _) hrun
  refine ⟨tr, s, query, hrun, hget, fun hrefines => ?_⟩
  exact ((expireRefines_iff hkeyed.keyedStore hget).mp hrefines hexpirable).1 hnan

/-- Oracle `b` is named in the call, and the first attestation comes from `a`: the service stores
`a`, the aggregate `b`. A late result is refused by the service, but not by the aggregate. And a
record whose deadline is NaN expires in the aggregate only. -/
theorem service_departs_from_aggregate :
    (∃ tr s query v, Run (queryService bareDeps) AnyStep twoOracles tr s ∧
      s.store.get? "q" = some query ∧ (quorumTurn s).pending.bind (·.verdict bothApprove) = some v ∧
      v.attestations ≠ [] ∧
      ¬EscrowRefines bareDeps s "q" query { attachments := [] } (some "b") none (.ofInt 1)
        bothApprove v "pk" (.ofInt 2)) ∧
    (∃ tr s query, Run (queryService bareDeps) AnyStep oneOracle tr s ∧
      s.store.get? "q" = some query ∧ ∀ v, v.attestations ≠ [] →
        ¬SubmitRefines bareDeps s "q" query { attachments := [] } (some "a") none (.ofInt 600001)
          approvals v { executorType := .human } (.ofInt 600001)) ∧
    ∃ tr s query, Run (queryService bareDeps) AnyStep oneOracle tr s ∧
      s.store.get? "q" = some query ∧ ¬ExpireRefines s "q" query (.ofInt 1) :=
  ⟨quorum_departs, late_departs, nan_departs⟩

end Anchr.Requests
