import Anchr.Requests.Steps

/-!
# What holds of every record

A suspended call writes a record it made from its snapshot, so an invariant of the records has to be
one of the snapshots too, together with the status each method has checked on them.
-/

namespace Anchr.Requests

open Infra

/-! ## Expiry and purge, record by record -/

def KeyedStore (store : QueryStore) : Prop := ∀ id query, store.get? id = some query → query.id = id

/-- What `expireQueries` makes of one record. -/
def Query.expireIfDue (now : JsNumber) (query : Query) : Query :=
  if isExpirable query.status && query.expiresAt.lt now then query.expired else query

variable {store : QueryStore} {s s' : State} {deps : ServiceDeps} {a : Action} {call : Nat}
  {queryId pk : String} {token : Option String} {now : JsNumber}

theorem get?_doExpireQueries (hkeyed : KeyedStore store) (now : JsNumber) (id : String) :
    (doExpireQueries store now).1.get? id = (store.get? id).map (Query.expireIfDue now) := by
  unfold doExpireQueries
  rw [JsMap.get?_foldl_values Prod.fst Query.id (fun q => some (q.expireIfDue now)) ?_ (store, 0)
    hkeyed]
  · cases JsMap.get? store id <;> rfl
  · intro acc query hget k
    unfold expireOne Query.expireIfDue
    split
    · exact JsMap.get?_set _ _ _ _
    · split
      · next hk => rw [hk, hget]
      · rfl

theorem get?_doPurgeExpired (hkeyed : KeyedStore store) (id : String) :
    (doPurgeExpired store).1.get? id = (store.get? id).filter (·.status ≠ .expired) := by
  unfold doPurgeExpired
  rw [JsMap.get?_foldl_values Prod.fst Query.id
    (fun q => if q.status = .expired then none else some q) ?_ (store, []) hkeyed]
  · cases JsMap.get? store id with
    | none => rfl
    | some query => by_cases he : query.status = .expired <;> simp [Option.filter, he]
  · intro acc query hget k
    unfold purgeOne
    split
    · exact JsMap.get?_delete _ _ _
    · split
      · next hk => rw [hk, hget]
      · rfl

theorem mem_purged {query : Query} : ∀ (l : List Query) (acc : QueryStore × List Query),
    query ∈ (l.foldl purgeOne acc).2 → query ∈ acc.2 ∨ (query ∈ l ∧ query.status = .expired)
  | [], _, h => .inl h
  | q :: l, acc, h => by
    rcases mem_purged l _ h with hacc | ⟨hl, he⟩
    · unfold purgeOne at hacc
      split at hacc
      · next he =>
        rcases List.mem_append.mp hacc with hacc | hq
        · exact .inl hacc
        · rw [List.mem_singleton.mp hq]
          exact Or.inr ⟨by simp, he⟩
      · exact .inl hacc
    · exact .inr ⟨List.mem_cons_of_mem _ hl, he⟩

/-! ## Records stand under their own id -/

/-- Records and the snapshots of suspended calls are keyed by ids that were given out. -/
structure Keyed (s : State) : Prop where
  store : ∀ id query, s.store.get? id = some query → query.id = id ∧ id ∈ s.minted
  calls : ∀ call p, s.calls.get? call = some p →
    ∀ id query, p.snapshot = some (id, query) → query.id = id ∧ id ∈ s.minted

theorem Keyed.keyedStore (h : Keyed s) : KeyedStore s.store :=
  fun id query hget => (h.store id query hget).1

/-- The record a new call is suspended with was read from the store, up to fields that do not
include its id. -/
def ReadsStore (store : QueryStore) (turn : Turn) : Prop :=
  ∀ p id query', turn.pending = some p → p.snapshot = some (id, query') →
    ∃ query, store.get? id = some query ∧ query'.id = query.id

theorem Begins.readsStore {m : Method} {turn : Turn} (h : Begins deps s a m turn) :
    ReadsStore s.store turn := by
  intro p id query' hp hsnap
  cases h with
  | refuses | expires => cases hp
  | submits hget =>
    cases hp
    cases hsnap
    exact ⟨_, hget, rfl⟩
  | selects =>
    obtain ⟨query, ref, hget, -, hcheck⟩ := doSelectProvider_pending hp
    rcases checkAmount_pending hcheck with ⟨sats, -, rfl⟩ | ⟨-, hash, -, rfl⟩
    all_goals
      cases hsnap
      exact ⟨query, hget, rfl⟩
  | records hget _ hok =>
    cases hp
    cases hsnap
    exact ⟨_, hget, (liveTransition_recordResult _ _ _ _ _ _ hok).2⟩

theorem Keyed.init (registry : Option OracleRegistry) (preimages : JsMap String String) :
    Keyed (State.init registry preimages) := by
  refine ⟨?_, ?_⟩ <;> intro _ _ h <;> cases h

theorem StoreStep.minted {deps : ServiceDeps} {s : State} {a : Action} {store : QueryStore}
    {minted : List String} (h : StoreStep deps s a store minted) {id : String}
    (hid : id ∈ s.minted) : id ∈ minted := by
  cases h with
  | create => exact List.mem_cons_of_mem _ hid
  | _ => exact hid

theorem StoreStep.keyed {minted : List String} (h : StoreStep deps s a store minted) (hk : Keyed s)
    {id : String} {query : Query} (hget : store.get? id = some query) :
    query.id = id ∧ id ∈ minted := by
  cases h with
  | keep => exact hk.store id query hget
  | create hid =>
    rcases JsMap.get?_of_set hget with ⟨rfl, rfl⟩ | hold
    · exact ⟨hid, List.mem_cons_self⟩
    · obtain ⟨hq, hm⟩ := hk.store id query hold
      exact ⟨hq, List.mem_cons_of_mem _ hm⟩
  | transition _ hread _ hid =>
    rcases JsMap.get?_of_set hget with ⟨rfl, rfl⟩ | hold
    · obtain ⟨hq, hm⟩ := hk.store _ _ hread
      exact ⟨hid.trans hq, hm⟩
    · exact hk.store id query hold
  | resumed hcall _ hsnap hid =>
    rcases JsMap.get?_of_set hget with ⟨rfl, rfl⟩ | hold
    · obtain ⟨hq, hm⟩ := hk.calls _ _ hcall _ _ hsnap
      exact ⟨hid.trans hq, hm⟩
    · exact hk.store id query hold
  | expire now =>
    rw [get?_doExpireQueries hk.keyedStore] at hget
    obtain ⟨q, hq, rfl⟩ := Option.map_eq_some_iff.mp hget
    have hid : (q.expireIfDue now).id = q.id := by
      unfold Query.expireIfDue
      split <;> rfl
    rw [hid]
    exact hk.store id q hq
  | purge =>
    rw [get?_doPurgeExpired hk.keyedStore] at hget
    exact hk.store id query (Option.filter_eq_some_iff.mp hget).1
  | clear => cases hget

variable {evs : List Event}

theorem StepShape.keyed (h : StepShape deps s a s' evs) (hk : Keyed s) :
    ∀ call p, s'.calls.get? call = some p →
      ∀ id query, p.snapshot = some (id, query) → query.id = id ∧ id ∈ s.minted := by
  intro call p hcall id query hsnap
  cases h with
  | sync hcalls =>
    rw [hcalls] at hcall
    exact hk.calls call p hcall id query hsnap
  | begin hbegins =>
    rcases calls_begin hcall with ⟨-, hp⟩ | hold
    · obtain ⟨q, hget, hid⟩ := hbegins.readsStore p id query hp hsnap
      obtain ⟨hq, hm⟩ := hk.store id q hget
      exact ⟨hid.trans hq, hm⟩
    · exact hk.calls call p hold id query hsnap
  | @resume c _ _ p₀ _ hcall₀ hresume =>
    rcases calls_continue hcall with ⟨-, hp⟩ | hold
    · rcases resume_pending hresume hp with hsame | hnone
      · rw [hsame] at hsnap
        exact hk.calls c p₀ hcall₀ id query hsnap
      · rw [hnone] at hsnap
        cases hsnap
    · exact hk.calls call p hold id query hsnap
  | serve _ hserves =>
    rcases JsMap.get?_of_set hcall with ⟨-, rfl⟩ | hold
    · -- a call that waits for the preimage store has committed its snapshot
      cases hserves <;> cases hsnap
    · exact hk.calls call p hold id query hsnap

theorem Keyed.step (hk : Keyed s) (h : step deps s a = some (s', evs)) :
    Keyed s' where
  store := fun _ _ hget => (storeStep_of_step h).keyed hk hget
  calls := fun call p hcall id query hsnap => by
    obtain ⟨hid, hm⟩ := (stepShape_of_step h).keyed hk call p hcall id query hsnap
    exact ⟨hid, (storeStep_of_step h).minted hm⟩

/-- In every run of the service, records and snapshots stand under their own id. -/
theorem keyed_of_run {G : State → Action → Prop} {s₀ : State} {tr : List Event} (h₀ : Keyed s₀)
    (h : Run (queryService deps) G s₀ tr s) : Keyed s :=
  Run.invariant (I := fun _ s => Keyed s) h₀ (fun hk _ hstep => hk.step hstep) h

/-! ## Invariants of records -/

def KeepsRecord (P : Query → Prop) (f : Query → Except String Query) : Prop :=
  ∀ query query', P query → f query = .ok query' → P query'

/-- Every way of writing a record again keeps the property. -/
structure RecordWrites (P : Query → Prop) : Prop where
  expired : ∀ {query}, P query → isTerminal query.status = false → P query.expired
  cancelled : ∀ {query}, P query → isOpenStatus query.status = true → P query.cancelled
  addOffer : ∀ offer, KeepsRecord P (addOffer · offer)
  selectProvider : ∀ pk updates, KeepsRecord P (selectProvider · pk updates)
  beginWork : KeepsRecord P beginWork
  recordResult : ∀ result pk blossomKeys now,
    KeepsRecord P (recordResult · result pk blossomKeys now)
  completeVerification : ∀ passed verification oracleId attestations,
    KeepsRecord P (completeVerification · passed verification oracleId attestations)
  submitted : ∀ (p : Submission) v now, P p.query → p.query.status = .pending →
    P { p.query.finalized v with
        submittedAt := some now
        result := some p.normalizedResult
        submissionMeta := some p.submissionMeta
        blossomKeys := p.blossomKeys }
  finalized : ∀ {query} v, P query → query.status = .verifying → P (query.finalized v)

/-- The property holds of new records and every way of writing a record keeps it. -/
structure RecordInvariant (deps : ServiceDeps) (P : Query → Prop) : Prop extends
    RecordWrites P where
  created : ∀ {input options now newQueryId newChallengeNonce query},
    doCreateQuery deps input options now newQueryId newChallengeNonce = .ok query → P query

def Action.CreatesWith (deps : ServiceDeps) (P : Query → Prop) : Action → Prop
  | .createQuery input options now newQueryId newChallengeNonce =>
    ∀ query, doCreateQuery deps input options now newQueryId newChallengeNonce = .ok query →
      P query
  | _ => True

/-- What a suspended call may rely on: the property of its snapshot and the status it checked. -/
def Pending.Holds (P : Query → Prop) : Pending → Prop
  | .submitResult p => P p.query ∧ p.query.status = .pending
  | .selectAmount p _ => P p.query
  | .selectLock p _ => P p.query
  | .escrowVerify p => P p.verifyingQuery ∧ p.verifyingQuery.status = .verifying
  | _ => True

/-- The property of all records and of what the suspended calls have read. -/
structure Records (P : Query → Prop) (s : State) : Prop where
  store : ∀ id query, s.store.get? id = some query → P query
  calls : ∀ call p, s.calls.get? call = some p → p.Holds P

/-- A turn writes a record with the property and is suspended with one. -/
structure Turn.Holds (P : Query → Prop) (turn : Turn) : Prop where
  write : ∀ id query, turn.write = some (id, query) → P query
  pending : ∀ p, turn.pending = some p → p.Holds P

theorem Records.init (P : Query → Prop) (registry : Option OracleRegistry)
    (preimages : JsMap String String) : Records P (State.init registry preimages) := by
  refine ⟨?_, ?_⟩ <;> intro _ _ h <;> cases h

section

variable {deps : ServiceDeps} {P : Query → Prop} {s s' : State} {store : QueryStore}

theorem Turn.Holds.returned (evs : List Event) : Turn.Holds P { events := evs } := by
  refine ⟨?_, ?_⟩ <;> intros <;> contradiction

theorem Turn.Holds.waits {p : Pending} (evs : List Event) (hp : p.Holds P) :
    Turn.Holds P { events := evs, pending := some p } := by
  refine ⟨fun id query hw => ?_, fun p' hp' => ?_⟩
  · cases hw
  · rw [← Option.some.inj hp']
    exact hp

variable {evs : List Event}

variable {turn : Turn} {query : Query} {p : Selection}

theorem Turn.Holds.withEvents (h : turn.Holds P) :
    Turn.Holds P { turn with events := evs } := ⟨h.write, h.pending⟩

theorem holds_commit {write : Write} {id : String}
    (hstore : ∀ id query, store.get? id = some query → P query)
    (hwrite : ∀ id query, write = some (id, query) → P query)
    (hget : (commit store write).get? id = some query) : P query := by
  cases write with
  | none => exact hstore id query hget
  | some w =>
    rcases JsMap.get?_of_set hget with ⟨-, rfl⟩ | hold
    · exact hwrite w.1 w.2 rfl
    · exact hstore id query hold

theorem KeepsRecord.transact {f : Query → Except String Query} (hf : KeepsRecord P f)
    (hstore : ∀ id query, store.get? id = some query → P query) (queryId message : String) :
    ∀ id query, (transact store queryId f message).1 = some (id, query) → P query := by
  intro id query' hw
  obtain ⟨rfl, query, hget, hok⟩ := transact_write hw
  exact hf query query' (hstore _ query hget) hok

theorem holds_commitSelection (hP : RecordWrites P) (hq : P query) (call : Nat)
    (queryId pk : String) (updates : EscrowSelectionUpdates) :
    (commitSelection call queryId query pk updates).Holds P := by
  refine ⟨fun id query' hw => ?_, fun p hp => ?_⟩
  · obtain ⟨-, hok⟩ := commitSelection_write hw
    exact hP.selectProvider pk updates query query' hq hok
  · simp at hp

theorem holds_checkLock (hP : RecordWrites P) (hq : P p.query) (call : Nat) :
    (p.checkLock call).Holds P := by
  unfold Selection.checkLock
  split
  · exact .waits _ hq
  · exact holds_commitSelection hP hq ..

theorem holds_checkAmount (hP : RecordWrites P) (hq : P p.query) (call : Nat) :
    (p.checkAmount call).Holds P := by
  unfold Selection.checkAmount
  split
  · exact .waits _ hq
  · exact holds_checkLock hP hq call

theorem holds_doSelectProvider (hP : RecordWrites P)
    (hstore : ∀ id query, store.get? id = some query → P query) :
    (doSelectProvider deps store call queryId pk token).Holds P := by
  unfold doSelectProvider
  split
  · exact .returned _
  · next query hget =>
    have hq := hstore queryId query hget
    split
    · exact .returned _
    · refine Turn.Holds.withEvents ?_
      split
      · exact holds_commitSelection hP hq ..
      · split
        · exact holds_checkAmount hP hq call
        · split
          · exact .returned _
          · exact holds_commitSelection hP hq ..

theorem Begins.holds {a : Action} {m : Method} (h : Begins deps s a m turn)
    (hP : RecordWrites P) (hstore : ∀ id query, s.store.get? id = some query → P query) :
    turn.Holds P := by
  cases h with
  | refuses => exact .returned _
  | expires hget hpending =>
    refine ⟨fun id' query' hw => ?_, fun p hp => by cases hp⟩
    cases hw
    exact hP.expired (hstore _ _ hget) (by rw [hpending]; rfl)
  | submits hget hpending => exact .waits _ ⟨hstore _ _ hget, hpending⟩
  | selects => exact holds_doSelectProvider hP hstore
  | records hget _ hok =>
    have hv := hP.recordResult _ _ _ _ _ _ (hstore _ _ hget) hok
    refine ⟨fun id query' hw => ?_, fun p hp => ?_⟩
    · cases hw
      exact hv
    · cases hp
      obtain ⟨_, -, -, -, heq⟩ := recordResult_ok hok
      exact ⟨hv, by rw [heq]⟩

theorem holds_resume (hP : RecordWrites P) {call : Nat} {now : JsNumber} {p : Pending}
    {answer : Answer} (hp : p.Holds P) (h : p.resume deps call now answer = some turn) :
    turn.Holds P := by
  cases resumes_of_resume h with
  | @submitted p _ v =>
    unfold Submission.finish
    split
    · exact .returned _
    · refine ⟨fun id query' hw => ?_, fun p' hp' => by cases hp'⟩
      cases hw
      exact hP.submitted p v now hp.1 hp.2
  | amountChecked p sats check =>
    refine Turn.Holds.withEvents ?_
    split
    · refine holds_checkLock hP ?_ call
      exact hp
    · exact .returned _
  | lockChecked p hash check =>
    refine Turn.Holds.withEvents ?_
    split
    · exact holds_commitSelection hP hp ..
    · exact .returned _
  | @verified p _ v =>
    refine ⟨fun id query' hw => ?_, fun p' hp' => ?_⟩
    · cases hw
      exact hP.finalized v hp.1 hp.2
    · obtain ⟨-, hsettle⟩ := EscrowSubmission.finish_pending hp'
      rcases settle_pending hsettle with ⟨hash, escrow, -, -, rfl⟩ | rfl <;> trivial
  | gotPreimage =>
    refine ⟨fun id query' hw => by simp at hw, fun p' hp' => ?_⟩
    obtain ⟨value, -, rfl⟩ := gotPreimage_pending hp'
    trivial
  | deletedPreimage => exact .returned _
  | gotSignature => exact ⟨fun id query' hw => by simp at hw, fun p' hp' => by simp at hp'⟩
  | threw => exact .returned _

theorem RecordWrites.store_step (hP : RecordWrites P) (hk : Keyed s) (hs : Records P s)
    {a : Action} (hcreated : a.CreatesWith deps P) (h : step deps s a = some (s', evs)) :
    ∀ id query, s'.store.get? id = some query → P query := by
  intro id query hget
  cases a with
  | createQuery input options now newQueryId newChallengeNonce =>
    simp only [step] at h
    split at h
    · cases h
      exact hs.store id query hget
    · next new hok =>
      cases h
      rcases JsMap.get?_of_set hget with ⟨-, rfl⟩ | hold
      · exact hcreated _ hok
      · exact hs.store id query hold
  | submitQueryResult =>
    cases h
    exact holds_commit hs.store (begins_doSubmitQueryResult.holds hP hs.store).write hget
  | cancelQuery id' =>
    cases h
    refine holds_commit hs.store (fun _ query' hw => ?_) hget
    unfold doCancelQuery at hw
    split at hw
    · cases hw
    · next q hq =>
      split at hw
      · cases hw
      · next hopen =>
        cases hw
        exact hP.cancelled (hs.store _ q hq) (by simpa using hopen)
  | expireQueries now =>
    cases h
    have hget' : (doExpireQueries s.store now).1.get? id = some query := hget
    rw [get?_doExpireQueries hk.keyedStore] at hget'
    obtain ⟨q, hq, rfl⟩ := Option.map_eq_some_iff.mp hget'
    have hold := hs.store id q hq
    unfold Query.expireIfDue
    split
    · next hdue =>
      rw [isExpirable_eq_not_isTerminal] at hdue
      exact hP.expired hold (by simp at hdue; exact hdue.1)
    · exact hold
  | purgeExpiredFromStore =>
    cases h
    have hget' : (doPurgeExpired s.store).1.get? id = some query := hget
    rw [get?_doPurgeExpired hk.keyedStore] at hget'
    exact hs.store id query (Option.filter_eq_some_iff.mp hget').1
  | clearQueryStore =>
    cases h
    cases hget
  | recordOffer =>
    cases h
    exact holds_commit hs.store ((hP.addOffer _).transact hs.store _ _) hget
  | selectProvider =>
    cases h
    exact holds_commit hs.store (holds_doSelectProvider hP hs.store ..).write hget
  | beginWork =>
    cases h
    exact holds_commit hs.store (hP.beginWork.transact hs.store _ _) hget
  | recordResult =>
    cases h
    exact holds_commit hs.store ((hP.recordResult _ _ _ _).transact hs.store _ _) hget
  | completeVerification =>
    cases h
    exact holds_commit hs.store ((hP.completeVerification _ _ _ _).transact hs.store _ _) hget
  | submitEscrowResult =>
    cases h
    exact holds_commit hs.store (begins_doSubmitEscrowResult.holds hP hs.store).write hget
  | resume call answer now =>
    obtain ⟨p, turn, hcall, hresume, rfl, -⟩ := step_resume h
    exact holds_commit hs.store (holds_resume hP (hs.calls call p hcall) hresume).write hget
  | serve call =>
    simp only [step] at h
    split at h
    · cases h
    · unfold State.serve at h
      split at h
      · cases h
        exact hs.store id query hget
      · cases h
        exact hs.store id query hget
      · cases h
  | registerOracle =>
    cases h
    exact hs.store id query hget
  | setPreimages =>
    cases h
    exact hs.store id query hget

theorem RecordWrites.calls_step (hP : RecordWrites P) (hs : Records P s) {a : Action}
    (h : step deps s a = some (s', evs)) :
    ∀ call p, s'.calls.get? call = some p → p.Holds P := by
  intro call p hcall
  cases stepShape_of_step h with
  | sync hcalls =>
    rw [hcalls] at hcall
    exact hs.calls call p hcall
  | begin hbegins =>
    rcases calls_begin hcall with ⟨-, hp⟩ | hold
    · exact (hbegins.holds hP hs.store).pending p hp
    · exact hs.calls call p hold
  | resume hcall₀ hresume =>
    rcases calls_continue hcall with ⟨-, hp⟩ | hold
    · exact (holds_resume hP (hs.calls _ _ hcall₀) hresume).pending p hp
    · exact hs.calls call p hold
  | serve _ hserves =>
    rcases JsMap.get?_of_set hcall with ⟨-, rfl⟩ | hold
    · cases hserves <;> trivial
    · exact hs.calls call p hold

/-- Where every new record has the property, every record has it in every run that starts with an
empty store. -/
theorem RecordWrites.run (hP : RecordWrites P) {G : State → Action → Prop}
    (hG : ∀ s a, G s a → a.CreatesWith deps P) {registry : Option OracleRegistry}
    {preimages : JsMap String String} {tr : List Event}
    (h : Run (queryService deps) G (State.init registry preimages) tr s) : Records P s := by
  have hI : Keyed s ∧ Records P s := by
    refine Run.invariant (I := fun _ s => Keyed s ∧ Records P s)
      ⟨Keyed.init registry preimages, Records.init P registry preimages⟩ ?_ h
    rintro tr s a s' evs ⟨hk, hs⟩ hg hstep
    exact ⟨hk.step hstep, hP.store_step hk hs (hG s a hg) hstep, hP.calls_step hs hstep⟩
  exact hI.2

/-- An invariant of records holds of every record in every run that starts with an empty store. -/
theorem RecordInvariant.run (hP : RecordInvariant deps P) {G : State → Action → Prop}
    {registry : Option OracleRegistry} {preimages : JsMap String String} {tr : List Event}
    (h : Run (queryService deps) G (State.init registry preimages) tr s) : Records P s := by
  refine hP.toRecordWrites.run (fun _ a _ => ?_) h
  cases a with
  | createQuery => exact fun _ hok => hP.created hok
  | _ => trivial

end

end Anchr.Requests
