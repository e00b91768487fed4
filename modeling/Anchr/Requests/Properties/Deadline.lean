import Anchr.Requests.History
import Anchr.Requests.Properties.Terminal

/-!
# No settlement after the deadline

The simple path looks at the deadline; the escrow path does not, and leaves it to a host that calls
`expireQueries`.
-/

namespace Anchr.Requests

open Infra

/-! ## Late results -/

def Action.handsIn : Action → Option (String × JsNumber)
  | .submitQueryResult id _ _ _ _ now => some (id, now)
  | .recordResult queryId _ _ _ now => some (queryId, now)
  | .submitEscrowResult queryId _ _ _ _ now => some (queryId, now)
  | _ => none

/-- A result is handed in after the deadline of the stored record. -/
def Late (s : State) (a : Action) : Prop :=
  ∃ id now query, a.handsIn = some (id, now) ∧ s.store.get? id = some query ∧
    query.expiresAt.lt now = true

/-- No result of the selected Provider comes after the deadline while the record is still
`processing`. -/
def TurnedAway (s : State) : Action → Prop
  | .recordResult queryId _ providerPubkey _ now
  | .submitEscrowResult queryId _ providerPubkey _ _ now =>
    ∀ query, s.store.get? queryId = some query → query.expiresAt.lt now = true →
      ¬query.Accepts providerPubkey
  | _ => True

/-- The call was answered with a refusal, and with nothing to redeem the payment with. -/
def Event.Refuses : Event → Prop
  | .submitReturned _ outcome => outcome.ok = false
  | .escrowReturned _ outcome =>
    outcome.ok = false ∧ outcome.preimage = none ∧ outcome.frostSignature = none
  | _ => False

/-- What a call that settles nothing does: it writes nothing, or marks the record as expired; it is
refused; and `later`, when the service has come from `s'` to `s''`, it is over. -/
structure SettlesNothing (s s' s'' : State) (evs later : List Event) : Prop where
  store : ∀ id query, s'.store.get? id = some query → s.store.get? id = some query ∨
    (query.status = .expired ∧ query.paymentStatus = .cancelled)
  events : ∀ e ∈ evs, e.Refuses
  finished : s.nextCall < s'.nextCall →
    s''.calls.get? s.nextCall = none ∧ ∀ e ∈ later, ∀ m, ¬e.Of s.nextCall m

/-! ## One call -/

section

variable {deps : ServiceDeps} {store : QueryStore} {query : Query}

structure Turn.TurnsAway (turn : Turn) : Prop where
  write : ∀ id query, turn.write = some (id, query) →
    query.status = .expired ∧ query.paymentStatus = .cancelled
  events : ∀ e ∈ turn.events, e.Refuses
  pending : turn.pending = none

theorem turnsAway_returned {e : Event} (h : e.Refuses) : Turn.TurnsAway { events := [e] } where
  write id query hw := by cases hw
  events e' he' := by
    rw [List.mem_singleton.mp he']
    exact h
  pending := rfl

variable {id : String}

theorem turnsAway_doSubmitQueryResult {now : JsNumber} (hget : store.get? id = some query)
    (hlate : query.expiresAt.lt now = true) (registry : Option OracleRegistry) (call : Nat)
    (result : QueryResult) (submissionMeta : SubmissionMeta) (oracleId : Option String)
    (blossomKeys : Option BlossomKeyMap) :
    (doSubmitQueryResult deps store registry call id result submissionMeta oracleId blossomKeys
      now).TurnsAway := by
  unfold doSubmitQueryResult
  rw [hget]
  dsimp only
  split
  · exact turnsAway_returned rfl
  · refine ⟨fun id' query' hw => ?_, fun e he => ?_, rfl⟩
    · cases hw
      exact ⟨rfl, rfl⟩
    · rw [List.mem_singleton.mp he]
      exact rfl

theorem turnsAway_doSubmitEscrowResult {queryId providerPubkey : String}
    (hget : store.get? queryId = some query) (haway : ¬query.Accepts providerPubkey)
    (registry : Option OracleRegistry) (call : Nat) (result : QueryResult)
    (oracleId : Option String) (blossomKeys : Option BlossomKeyMap) (now : JsNumber) :
    (doSubmitEscrowResult deps store registry call queryId result providerPubkey oracleId
      blossomKeys now).TurnsAway := by
  unfold doSubmitEscrowResult
  rw [hget]
  dsimp only
  split
  · exact turnsAway_returned ⟨rfl, rfl, rfl⟩
  · obtain ⟨error, herror⟩ :=
      recordResult_error haway (deps.normalizeResult result) blossomKeys now
    rw [herror]
    exact turnsAway_returned ⟨rfl, rfl, rfl⟩

theorem Turn.TurnsAway.commit {turn : Turn} (h : turn.TurnsAway)
    (hget : (commit store turn.write).get? id = some query) :
    store.get? id = some query ∨ (query.status = .expired ∧ query.paymentStatus = .cancelled) := by
  cases hw : turn.write with
  | none =>
    rw [hw] at hget
    exact .inl hget
  | some w =>
    rw [hw] at hget
    rcases JsMap.get?_of_set hget with ⟨-, rfl⟩ | hold
    · exact .inr (h.write w.1 w.2 hw)
    · exact .inl hold

end

/-! ## Every run -/

section

variable {deps : ServiceDeps} {s s' s'' : State} {tr later evs : List Event}
  {G : State → Action → Prop}

theorem settlesNothing_begin {turn : Turn} (hnumbered : Numbered tr s) (h : turn.TurnsAway)
    (hlater : Run (queryService deps) G (s.begin turn).1 later s'') :
    SettlesNothing s (s.begin turn).1 s'' turn.events later := by
  refine ⟨fun id query hget => h.commit hget, h.events, fun _ => ?_⟩
  have hover : CallOver s.nextCall (s.begin turn).1 := by
    refine ⟨Nat.lt_succ_self _, ?_⟩
    cases hget : (s.begin turn).1.calls.get? s.nextCall with
    | none => rfl
    | some p =>
      rcases calls_begin hget with ⟨-, hp⟩ | hold
      · rw [h.pending] at hp
        cases hp
      · exact absurd (hnumbered.calls _ p hold) (Nat.lt_irrefl _)
  obtain ⟨hover', hnone⟩ := hover.run hlater
  exact ⟨hover'.gone, hnone⟩

/--
In every run, whatever the interleaving and whether `expireQueries` has run or not, whose steps are
all `TurnedAway`: a `submitQueryResult`, `recordResult` or `submitEscrowResult` call that begins
later than the deadline of the record is refused without a preimage or a signature, changes nothing
but to mark the record as expired, and is over for the rest of the run.
-/
theorem late_result_settles_nothing {a : Action} {registry : Option OracleRegistry}
    {preimages : JsMap String String}
    (hrun : Run (queryService deps) TurnedAway (State.init registry preimages) tr s)
    (haway : TurnedAway s a) (hlate : Late s a)
    (hstep : (queryService deps).step s a = some (s', evs))
    (hlater : Run (queryService deps) TurnedAway s' later s'') :
    SettlesNothing s s' s'' evs later := by
  have hnumbered : Numbered tr s := numbered_of_run rfl hrun
  obtain ⟨id, now, query, hin, hget, hpast⟩ := hlate
  cases a with
  | submitQueryResult id' result submissionMeta oracleId blossomKeys now' =>
    obtain ⟨rfl, rfl⟩ := Prod.mk.inj (Option.some.inj hin)
    obtain ⟨rfl, rfl⟩ := Prod.mk.inj (Option.some.inj hstep)
    refine settlesNothing_begin hnumbered ?_ hlater
    exact turnsAway_doSubmitQueryResult hget hpast ..
  | recordResult queryId result providerPubkey blossomKeys now' =>
    obtain ⟨rfl, rfl⟩ := Prod.mk.inj (Option.some.inj hin)
    obtain ⟨rfl, rfl⟩ := Prod.mk.inj (Option.some.inj hstep)
    obtain ⟨error, herror⟩ := recordResult_error (haway query hget hpast)
      (deps.normalizeResult result) blossomKeys now'
    have hnone : (doRecordResult deps s.store queryId result providerPubkey blossomKeys
        now').1 = none := by
      unfold doRecordResult transact
      rw [hget]
      dsimp only
      rw [herror]
    refine ⟨fun id query' hget' => ?_, fun e he => ?_, fun hlt => ?_⟩
    · dsimp only at hget'
      rw [hnone] at hget'
      exact Or.inl hget'
    · cases he
    · exact absurd hlt (Nat.lt_irrefl _)
  | submitEscrowResult queryId result providerPubkey oracleId blossomKeys now' =>
    obtain ⟨rfl, rfl⟩ := Prod.mk.inj (Option.some.inj hin)
    obtain ⟨rfl, rfl⟩ := Prod.mk.inj (Option.some.inj hstep)
    refine settlesNothing_begin hnumbered ?_ hlater
    exact turnsAway_doSubmitEscrowResult hget (haway query hget hpast) ..
  | _ => cases hin

end

/-! ## Runs -/

def afterDeadline : JsNumber := .ofInt 600001

def isLate (s : State) : Bool := (s.store.get? "q").any (·.expiresAt.lt afterDeadline)

theorem late_of_isLate {s : State} {a : Action} (hin : a.handsIn = some ("q", afterDeadline))
    (h : isLate s = true) : Late s a := by
  unfold isLate at h
  cases hget : s.store.get? "q" with
  | none =>
    rw [hget] at h
    cases h
  | some query =>
    rw [hget] at h
    exact ⟨"q", afterDeadline, query, hin, hget, h⟩

def plainQuery : Action :=
  .createQuery { description := "weather" } (some { oracleIds := some ["a"] }) (.ofInt 0) "q" "n"

/-- A result is handed in then. -/
def lateSubmission : Action :=
  .submitQueryResult "q" { attachments := [] } { executorType := .human } none none afterDeadline

def laterPurged : Option (Bool × Bool) :=
  ((queryService bareDeps).exec oneOracle [plainQuery]).bind fun r =>
    ((queryService bareDeps).step r.1 lateSubmission).bind fun r₁ =>
      ((queryService bareDeps).step r₁.1 .purgeExpiredFromStore).map fun r₂ =>
        (isLate r.1, r₂.2.isEmpty)

/-- On the simple path, a late result finds the record expired, and the record is purged later. -/
theorem late_result_settles_nothing_simple : ∃ tr s s' evs later s'',
    Run (queryService bareDeps) TurnedAway oneOracle tr s ∧ Late s lateSubmission ∧
      (queryService bareDeps).step s lateSubmission = some (s', evs) ∧
      Run (queryService bareDeps) TurnedAway s' later s'' ∧ later ≠ [] ∧
      SettlesNothing s s' s'' evs later := by
  have hevaluated : laterPurged = some (true, false) := by decide +kernel
  obtain ⟨⟨s, tr⟩, hexec, hrest⟩ := Option.bind_eq_some_iff.mp hevaluated
  obtain ⟨⟨s', evs⟩, hstep, hrest⟩ := Option.bind_eq_some_iff.mp hrest
  obtain ⟨⟨s'', later⟩, hpurge, hrest⟩ := Option.map_eq_some_iff.mp hrest
  obtain ⟨hpast, hlater⟩ := Prod.mk.inj hrest
  have hadmits : (queryService bareDeps).Admits TurnedAway oneOracle [plainQuery] :=
    ⟨trivial, fun _ _ => trivial⟩
  have hrun := Run.of_exec _ .start hadmits hexec
  have hallowed : TurnedAway s' .purgeExpiredFromStore := trivial
  have hpurged := Run.start.next hallowed hpurge
  have hlate : Late s lateSubmission := late_of_isLate rfl hpast
  have haway : TurnedAway s lateSubmission := trivial
  exact ⟨_, s, s', evs, _, s'', hrun, hlate, hstep, hpurged, by simpa using hlater,
    late_result_settles_nothing hrun haway hlate hstep hpurged⟩

def preimageDeps : ServiceDeps := .wired false true false

def preimageState : State :=
  State.init (some (OracleRegistry.empty.register ⟨"a"⟩)) (JsMap.empty.set "h" "preimage")

def workBegun : List Action :=
  [.createQuery { description := "weather" }
      (some { oracleIds := some ["a"], escrow := some (openEscrow (.htlc "h")) }) (.ofInt 0) "q"
      "n",
    .selectProvider "q" "pk" none, .beginWork "q"]

/-- Its result is handed in after the deadline. -/
def lateEscrowResult : Action :=
  .submitEscrowResult "q" { attachments := [] } "pk" (some "a") none afterDeadline

def approvedAndRevealed : List Action :=
  [.resume 1 (.attestations [Oracle.verdict ⟨"a"⟩ "q" true]) afterDeadline, .serve 1,
    .resume 1 .stored afterDeadline, .serve 1, .resume 1 .stored afterDeadline]

def preimagesReturned (tr : List Event) : List (Option String) :=
  tr.filterMap fun e =>
    match e with
    | .escrowReturned _ outcome => some outcome.preimage
    | _ => none

def lateOutcome : Option (Bool × Option (QueryStatus × PaymentStatus) × List (Option String)) :=
  ((queryService preimageDeps).exec preimageState workBegun).bind fun r =>
    ((queryService preimageDeps).step r.1 lateEscrowResult).bind fun r₁ =>
      ((queryService preimageDeps).exec r₁.1 approvedAndRevealed).map fun r₂ =>
        (isLate r.1, (r₂.1.store.get? "q").map fun q => (q.status, q.paymentStatus),
          preimagesReturned r₂.2)

/-- On the escrow path, a late result of the selected Provider is verified, the query is approved,
the payment released and the preimage returned. -/
theorem late_result_released : ∃ tr s s' evs later s'' query,
    Run (queryService preimageDeps) AnyStep preimageState tr s ∧ Late s lateEscrowResult ∧
      (queryService preimageDeps).step s lateEscrowResult = some (s', evs) ∧
      Run (queryService preimageDeps) AnyStep s' later s'' ∧
      s''.store.get? "q" = some query ∧ query.status = .approved ∧
      query.paymentStatus = .released ∧
      (∃ call outcome, .escrowReturned call outcome ∈ later ∧
        outcome.preimage = some "preimage") := by
  have hevaluated : lateOutcome =
      some (true, some (.approved, .released), [some "preimage"]) := by decide +kernel
  obtain ⟨⟨s, tr⟩, hexec, hrest⟩ := Option.bind_eq_some_iff.mp hevaluated
  obtain ⟨⟨s', evs⟩, hstep, hrest⟩ := Option.bind_eq_some_iff.mp hrest
  obtain ⟨⟨s'', later⟩, hexec', heq⟩ := Option.map_eq_some_iff.mp hrest
  obtain ⟨hpast, heq⟩ := Prod.mk.inj heq
  obtain ⟨hstatus, hreturned⟩ := Prod.mk.inj heq
  obtain ⟨query, hget, hq⟩ := Option.map_eq_some_iff.mp hstatus
  obtain ⟨happroved, hreleased⟩ := Prod.mk.inj hq
  have hrun := Run.of_exec _ .start (Machine.admits_anyStep _ _ _) hexec
  have hlater := Run.of_exec _ .start (Machine.admits_anyStep _ _ _) hexec'
  rw [List.nil_append] at hrun hlater
  refine ⟨tr, s, s', evs, later, s'', query, hrun, late_of_isLate rfl hpast, hstep, hlater, hget,
    happroved, hreleased, ?_⟩
  have hmem : some "preimage" ∈ preimagesReturned later := by
    rw [hreturned]
    exact List.mem_singleton_self _
  obtain ⟨e, he, hsome⟩ := List.mem_filterMap.mp hmem
  cases e with
  | escrowReturned call outcome => exact ⟨call, outcome, he, Option.some.inj hsome⟩
  | _ => cases hsome

end Anchr.Requests
