import Anchr.Requests.Service

/-!
# What one turn of a call can do
-/

namespace Anchr.Requests

open Infra

/-! ## What a turn writes -/

/-- A write that goes over a record that is not terminal and keeps its id. -/
def LiveWrite (store : QueryStore) (write : Write) : Prop :=
  ∀ id query', write = some (id, query') →
    ∃ query, store.get? id = some query ∧ isTerminal query.status = false ∧ query'.id = query.id

theorem liveWrite_none (store : QueryStore) : LiveWrite store none := by
  intro id query' h
  cases h

variable {query' : Query} {id queryId pk : String} {store : QueryStore} {call : Nat} {p : Selection}
  {deps : ServiceDeps} {now : JsNumber} {answer : Answer} {turn : Turn} {p' : Pending}

variable {query updated : Query} {f : Query → Except String Query} {token : Option String}
  {v : QuorumVerificationResult} {check : EscrowAmountResult} {sats : JsNumber} {hash : String}

theorem liveWrite_some (hget : store.get? id = some query)
    (hlive : isTerminal query.status = false) (hid : query'.id = query.id) :
    LiveWrite store (some (id, query')) := by
  intro id' query'' h
  cases h
  exact ⟨query, hget, hlive, hid⟩

theorem transact_write {id' : String} {message : String}
    (h : (transact store id f message).1 = some (id', query')) :
    id' = id ∧ ∃ query, store.get? id = some query ∧ f query = .ok query' := by
  unfold transact at h
  split at h
  · cases h
  · next query hget =>
    split at h
    · cases h
    · next q hf =>
      cases h
      exact ⟨rfl, query, hget, hf⟩

def LiveTransition (f : Query → Except String Query) : Prop :=
  ∀ query query', f query = .ok query' → isTerminal query.status = false ∧ query'.id = query.id

theorem LiveTransition.liveWrite (hf : LiveTransition f) (store : QueryStore)
    (id message : String) : LiveWrite store (transact store id f message).1 := by
  intro id' query' h
  obtain ⟨rfl, query, hget, hok⟩ := transact_write h
  obtain ⟨hlive, hid⟩ := hf query query' hok
  exact ⟨query, hget, hlive, hid⟩

theorem liveTransition_addOffer (offer : OfferInfo) : LiveTransition (addOffer · offer) := by
  intro query query' h
  obtain ⟨-, hs, rfl⟩ := addOffer_ok h
  exact ⟨by rw [hs]; rfl, rfl⟩

theorem liveTransition_selectProvider (pk : String) (updates : EscrowSelectionUpdates) :
    LiveTransition (selectProvider · pk updates) := by
  intro query query' h
  obtain ⟨escrow, -, hs, rfl⟩ := selectProvider_ok h
  exact ⟨by rw [hs]; rfl, rfl⟩

theorem liveTransition_beginWork : LiveTransition beginWork := by
  intro query query' h
  obtain ⟨-, hs, rfl⟩ := beginWork_ok h
  exact ⟨isTerminal_of_isValidTransition hs, rfl⟩

theorem liveTransition_recordResult (result : QueryResult) (pk : String)
    (blossomKeys : Option BlossomKeyMap) (now : JsNumber) :
    LiveTransition (recordResult · result pk blossomKeys now) := by
  intro query query' h
  obtain ⟨escrow, -, hs, -, rfl⟩ := recordResult_ok h
  exact ⟨by rw [hs]; rfl, rfl⟩

theorem liveTransition_completeVerification (passed : Bool)
    (verification : Option VerificationDetail) (oracleId : Option String)
    (attestations : Option (List OracleAttestationRecord)) :
    LiveTransition (completeVerification · passed verification oracleId attestations) := by
  intro query query' h
  obtain ⟨-, hs, rfl⟩ := completeVerification_ok h
  exact ⟨by rw [hs]; rfl, rfl⟩

theorem liveWrite_doCancelQuery (store : QueryStore) (id : String) :
    LiveWrite store (doCancelQuery store id).1 := by
  unfold doCancelQuery
  split
  · exact liveWrite_none store
  · next query hget =>
    split
    · exact liveWrite_none store
    · next hopen =>
      exact liveWrite_some hget (isTerminal_of_isOpenStatus (by simpa using hopen)) rfl

theorem commitSelection_write {updates : EscrowSelectionUpdates}
    (h : (commitSelection call queryId query pk updates).write = some (id, query')) :
    id = queryId ∧ selectProvider query pk updates = .ok query' := by
  unfold commitSelection at h
  split at h
  · cases h
  · next q hok =>
    cases h
    exact ⟨rfl, hok⟩

theorem checkLock_write (h : (p.checkLock call).write = some (id, query')) :
    p.query.paymentHash = none ∧ id = p.queryId ∧
      selectProvider p.query p.providerPubkey p.updates = .ok query' := by
  unfold Selection.checkLock at h
  split at h
  · cases h
  · next hnone => exact ⟨hnone, commitSelection_write h⟩

theorem checkAmount_write (h : (p.checkAmount call).write = some (id, query')) :
    id = p.queryId ∧ selectProvider p.query p.providerPubkey p.updates = .ok query' := by
  unfold Selection.checkAmount at h
  split at h
  · cases h
  · exact (checkLock_write h).2

theorem doSelectProvider_write
    (h : (doSelectProvider deps store call queryId pk token).write = some (id, query')) :
    id = queryId ∧ ∃ query, store.get? queryId = some query ∧
      selectProvider query pk { escrowToken := token.map some } = .ok query' := by
  unfold doSelectProvider at h
  split at h
  · cases h
  · next query hget =>
    split at h
    · cases h
    · dsimp only at h
      split at h
      · obtain ⟨rfl, hok⟩ := commitSelection_write h
        exact ⟨rfl, query, hget, hok⟩
      · split at h
        · obtain ⟨rfl, hok⟩ := checkAmount_write h
          exact ⟨rfl, query, hget, hok⟩
        · split at h
          · cases h
          · obtain ⟨rfl, hok⟩ := commitSelection_write h
            exact ⟨rfl, query, hget, hok⟩

theorem liveWrite_doSelectProvider :
    LiveWrite store (doSelectProvider deps store call queryId pk token).write := by
  intro id query' h
  obtain ⟨rfl, query, hget, hok⟩ := doSelectProvider_write h
  obtain ⟨hlive, hid⟩ := liveTransition_selectProvider _ _ query query' hok
  exact ⟨query, hget, hlive, hid⟩

/-! ## How a suspended call goes on -/

/-- The turns of a suspended call; `resumes_of_resume`. -/
inductive Resumes (deps : ServiceDeps) (call : Nat) (now : JsNumber) :
    Pending → Answer → Turn → Prop
  | submitted {p : Submission} {atts : List OracleAttestation} {v : QuorumVerificationResult}
      (hreply : p.request.reply atts = some v) :
      Resumes deps call now (.submitResult p) (.attestations atts) (p.finish call v now)
  | amountChecked (p : Selection) (sats : JsNumber) (check : EscrowAmountResult) :
      Resumes deps call now (.selectAmount p sats) (.amount check) (p.amountChecked call sats check)
  | lockChecked (p : Selection) (hash : String) (check : EscrowTokenLockResult) :
      Resumes deps call now (.selectLock p hash) (.lock check) (p.lockChecked call hash check)
  | verified {p : EscrowSubmission} {atts : List OracleAttestation} {v : QuorumVerificationResult}
      (hreply : p.request.reply atts = some v) :
      Resumes deps call now (.escrowVerify p) (.attestations atts) (p.finish deps call v)
  | gotPreimage (hash : String) (preimage : Option String) (updated : Query) :
      Resumes deps call now (.escrowGot hash preimage updated) .stored
        (gotPreimage call hash preimage updated)
  | deletedPreimage (hash preimage : String) (updated : Query) :
      Resumes deps call now (.escrowDeleted hash preimage updated) .stored
        (returnPreimage call preimage updated)
  | gotSignature {answer : Answer} (signature : Option (List String)) (updated : Query) :
      Resumes deps call now (.escrowFrost updated) answer (gotSignature call signature updated)
  /-- Everything else that is awaited passes a rejection on to the caller. -/
  | threw (p : Pending) : Resumes deps call now p .rejected { events := [.threw call] }

theorem resumes_of_resume {p : Pending} (h : p.resume deps call now answer = some turn) :
    Resumes deps call now p answer turn := by
  unfold Pending.resume at h
  split at h
  next =>
    obtain ⟨v, hv, rfl⟩ := Option.map_eq_some_iff.mp h
    exact .submitted hv
  next =>
    cases h
    exact .amountChecked ..
  next =>
    cases h
    exact .lockChecked ..
  next =>
    obtain ⟨v, hv, rfl⟩ := Option.map_eq_some_iff.mp h
    exact .verified hv
  next =>
    cases h
    exact .gotPreimage ..
  next =>
    cases h
    exact .deletedPreimage ..
  next =>
    cases h
    exact .gotSignature ..
  next =>
    cases h
    exact .gotSignature ..
  next =>
    cases h
    exact .threw _
  next => cases h

/-! ## What a resumed call writes -/

/-- The record a suspended call will continue with, and its key; `none` once it has committed. -/
def Pending.snapshot : Pending → Option (String × Query)
  | .submitResult p => some (p.id, p.query)
  | .selectAmount p _ => some (p.queryId, p.query)
  | .selectLock p _ => some (p.queryId, p.query)
  | .escrowVerify p => some (p.queryId, p.verifyingQuery)
  | _ => none

theorem Submission.finish_write {p : Submission}
    (h : (p.finish call v now).write = some (id, query')) :
    (v.passed = true ∨ v.attestations ≠ []) ∧ id = p.id ∧ query'.id = p.query.id := by
  unfold Submission.finish at h
  split at h
  · cases h
  · next hverdict =>
    cases h
    refine ⟨?_, rfl, rfl⟩
    by_contra hnone
    rw [not_or] at hnone
    exact hverdict (by simpa using hnone)

theorem amountChecked_write (h : (p.amountChecked call sats check).write = some (id, query')) :
    (check.valid = true ∧ p.query.paymentHash = none) ∧ id = p.queryId ∧
      ∃ updates, selectProvider p.query p.providerPubkey updates = .ok query' := by
  unfold Selection.amountChecked at h
  dsimp only at h
  split at h
  · next hvalid =>
    obtain ⟨hnone, rfl, hok⟩ := checkLock_write h
    exact ⟨⟨hvalid, hnone⟩, rfl, _, hok⟩
  · cases h

theorem lockChecked_write {check : EscrowTokenLockResult}
    (h : (p.lockChecked call hash check).write = some (id, query')) :
    check.ok = true ∧ id = p.queryId ∧
      selectProvider p.query p.providerPubkey p.updates = .ok query' := by
  unfold Selection.lockChecked at h
  dsimp only at h
  split at h
  · next hok => exact ⟨hok, commitSelection_write h⟩
  · cases h

@[simp] theorem gotPreimage_write (call : Nat) (hash : String) (preimage : Option String)
    (updated : Query) : (gotPreimage call hash preimage updated).write = none := by
  unfold gotPreimage
  split <;> rfl

@[simp] theorem gotSignature_write (call : Nat) (signature : Option (List String))
    (updated : Query) : (gotSignature call signature updated).write = none := by
  unfold gotSignature
  split <;> rfl

/-- The answers that take a suspended call to the branch that writes its snapshot back. -/
def Pending.Commits : Pending → Answer → Prop
  | .submitResult p, .attestations atts =>
    ∃ v, p.request.reply atts = some v ∧ (v.passed = true ∨ v.attestations ≠ [])
  | .selectAmount p _, .amount check => check.valid = true ∧ p.query.paymentHash = none
  | .selectLock _ _, .lock check => check.ok = true
  | .escrowVerify _, .attestations _ => True
  | _, _ => False

/-- A resumed call that writes is on its committing branch, writes over the key it read, and keeps
the id of what it read. -/
theorem resume_write {p : Pending} (h : p.resume deps call now answer = some turn)
    (hw : turn.write = some (id, query')) :
    p.Commits answer ∧ ∃ query, p.snapshot = some (id, query) ∧ query'.id = query.id := by
  cases resumes_of_resume h with
  | @submitted p atts v hreply =>
    obtain ⟨hcommits, rfl, hid⟩ := p.finish_write hw
    exact ⟨⟨v, hreply, hcommits⟩, p.query, rfl, hid⟩
  | amountChecked p sats check =>
    obtain ⟨hcommits, rfl, updates, hok⟩ := amountChecked_write hw
    exact ⟨hcommits, p.query, rfl, (liveTransition_selectProvider _ _ _ _ hok).2⟩
  | lockChecked p hash check =>
    obtain ⟨hcommits, rfl, hok⟩ := lockChecked_write hw
    exact ⟨hcommits, p.query, rfl, (liveTransition_selectProvider _ _ _ _ hok).2⟩
  | @verified p =>
    cases hw
    exact ⟨trivial, p.verifyingQuery, rfl, rfl⟩
  -- past its commit a call writes nothing
  | gotPreimage => simp at hw
  | deletedPreimage => cases hw
  | gotSignature => simp at hw
  | threw => cases hw

/-! ## Where a call is suspended next -/

@[simp] theorem commitSelection_pending (call : Nat) (queryId : String) (query : Query)
    (pk : String) (updates : EscrowSelectionUpdates) :
    (commitSelection call queryId query pk updates).pending = none := by
  unfold commitSelection
  split <;> rfl

theorem checkLock_pending (h : (p.checkLock call).pending = some p') :
    ∃ hash, p.query.paymentHash = some hash ∧ p' = .selectLock p hash := by
  unfold Selection.checkLock at h
  split at h
  · next hash hhash => exact ⟨hash, hhash, (Option.some.inj h).symm⟩
  · simp at h

theorem checkAmount_pending (h : (p.checkAmount call).pending = some p') :
    (∃ sats, p.query.expectedSats = some sats ∧ p' = .selectAmount p sats) ∨
      (p.query.expectedSats = none ∧
        ∃ hash, p.query.paymentHash = some hash ∧ p' = .selectLock p hash) := by
  unfold Selection.checkAmount at h
  split at h
  · next sats hsats => exact .inl ⟨sats, hsats, (Option.some.inj h).symm⟩
  · next hnone => exact .inr ⟨hnone, checkLock_pending h⟩

theorem doSelectProvider_pending {p : Pending}
    (h : (doSelectProvider deps store call queryId pk token).pending = some p) :
    ∃ query ref, store.get? queryId = some query ∧
      (settledRef query token).filter (· ≠ "") = some ref ∧
      (Selection.checkAmount
        { queryId := queryId
          query := query
          providerPubkey := pk
          escrowRef := ref
          updates := { escrowToken := token.map some } } call).pending = some p := by
  unfold doSelectProvider at h
  split at h
  · cases h
  · next query hget =>
    split at h
    · cases h
    · dsimp only at h
      split at h
      · simp at h
      · next ref href =>
        split at h
        · exact ⟨query, ref, hget, href, h⟩
        · split at h
          · cases h
          · simp at h

theorem amountChecked_pending (h : (p.amountChecked call sats check).pending = some p') :
    check.valid = true ∧ ∃ hash, p.query.paymentHash = some hash ∧
      p' = .selectLock
        { p with updates := { p.updates with verifiedEscrowSats := some check.amountSats } }
        hash := by
  unfold Selection.amountChecked at h
  dsimp only at h
  split at h
  · next hvalid => exact ⟨hvalid, checkLock_pending h⟩
  · cases h

@[simp] theorem lockChecked_pending (p : Selection) (call : Nat) (hash : String)
    (check : EscrowTokenLockResult) : (p.lockChecked call hash check).pending = none := by
  unfold Selection.lockChecked
  dsimp only
  split
  · exact commitSelection_pending ..
  · rfl

theorem settle_pending {p : EscrowSubmission} (h : (settle deps p call updated).pending = some p') :
    (∃ hash escrow, p.query.escrow = some escrow ∧ escrow.type = .htlc hash ∧
        p' = .escrowGet hash updated) ∨ p' = .escrowFrost updated := by
  unfold settle at h
  split at h
  · next hash htype =>
    obtain ⟨escrow, he, ht⟩ := Option.map_eq_some_iff.mp htype
    split at h
    · exact .inl ⟨hash, escrow, he, ht, (Option.some.inj h).symm⟩
    · cases h
  · split at h
    · exact .inr (Option.some.inj h).symm
    · cases h
  · cases h

theorem EscrowSubmission.finish_pending {p : EscrowSubmission}
    (h : (p.finish deps call v).pending = some p') :
    v.passed = true ∧ (settle deps p call (p.verifyingQuery.finalized v)).pending = some p' := by
  unfold EscrowSubmission.finish at h
  dsimp only at h
  split at h
  · next hpass => exact ⟨hpass, h⟩
  · cases h

theorem gotPreimage_pending {preimage : Option String}
    (h : (gotPreimage call hash preimage updated).pending = some p') :
    ∃ value, preimage = some value ∧ p' = .escrowDelete hash value updated := by
  unfold gotPreimage at h
  split at h
  · next value hvalue =>
    exact ⟨value, (Option.filter_eq_some_iff.mp hvalue).1, (Option.some.inj h).symm⟩
  · cases h

@[simp] theorem gotSignature_pending (call : Nat) (signature : Option (List String))
    (updated : Query) : (gotSignature call signature updated).pending = none := by
  unfold gotSignature
  split <;> rfl

/-- A call that is suspended again continues with the record it read, or has committed. -/
theorem resume_pending {p : Pending} (h : p.resume deps call now answer = some turn)
    (hp : turn.pending = some p') : p'.snapshot = p.snapshot ∨ p'.snapshot = none := by
  cases resumes_of_resume h with
  | submitted =>
    unfold Submission.finish at hp
    split at hp <;> cases hp
  | amountChecked =>
    obtain ⟨-, hash, -, rfl⟩ := amountChecked_pending hp
    exact .inl rfl
  | lockChecked => simp at hp
  | verified =>
    obtain ⟨-, hsettle⟩ := EscrowSubmission.finish_pending hp
    rcases settle_pending hsettle with ⟨hash, escrow, -, -, rfl⟩ | rfl
    · exact .inr rfl
    · exact .inr rfl
  | gotPreimage =>
    obtain ⟨value, -, rfl⟩ := gotPreimage_pending hp
    exact .inr rfl
  | deletedPreimage => cases hp
  | gotSignature => simp at hp
  | threw => cases hp

/-! ## Whose events a turn emits -/

/-- The asynchronous methods, and the preimage store at work for one of them. -/
inductive Method where
  | submit
  | select
  | escrow
  | serve
  deriving DecidableEq

def Pending.method : Pending → Method
  | .submitResult _ => .submit
  | .selectAmount .. | .selectLock .. => .select
  | .escrowVerify _ | .escrowGet .. | .escrowGot .. | .escrowDelete .. | .escrowDeleted ..
  | .escrowFrost _ => .escrow

/-- The event is one of this call and method. -/
def Event.Of (call : Nat) (m : Method) : Event → Prop
  | .created _ | .purged _ | .offerRecorded _ _ => False
  | .selectBegan c .. | .amountChecked c .. | .lockChecked c .. | .providerSelected c ..
  | .selectReturned c .. => c = call ∧ m = .select
  | .escrowBegan c .. | .frostRequested c .. | .frostAnswered c .. | .escrowReturned c .. =>
    c = call ∧ m = .escrow
  | .preimageRead c .. | .preimageDeleted c .. => c = call ∧ m = .serve
  | .verified c .. => c = call ∧ m ≠ .select
  | .submitReturned c .. => c = call ∧ m = .submit
  | .threw c => c = call

def Turn.Of (call : Nat) (m : Method) (turn : Turn) : Prop :=
  (∀ e ∈ turn.events, e.Of call m) ∧ ∀ p, turn.pending = some p → p.method = m

theorem of_commitSelection (call : Nat) (queryId : String) (query : Query) (pk : String)
    (updates : EscrowSelectionUpdates) :
    (commitSelection call queryId query pk updates).Of call .select := by
  unfold commitSelection
  split <;> simp [Turn.Of, Event.Of]

theorem of_checkLock (p : Selection) (call : Nat) : (p.checkLock call).Of call .select := by
  unfold Selection.checkLock
  split
  · simp [Turn.Of, Pending.method]
  · exact of_commitSelection ..

theorem of_checkAmount (p : Selection) (call : Nat) : (p.checkAmount call).Of call .select := by
  unfold Selection.checkAmount
  split
  · simp [Turn.Of, Pending.method]
  · exact of_checkLock p call

theorem Turn.Of.cons {m : Method} {e : Event} {write : Write} (he : e.Of call m)
    (h : turn.Of call m) :
    Turn.Of call m { write := write, events := e :: turn.events, pending := turn.pending } := by
  refine ⟨fun d hd => ?_, h.2⟩
  rcases List.mem_cons.mp hd with rfl | hd
  · exact he
  · exact h.1 d hd

theorem of_doSelectProvider :
    (doSelectProvider deps store call queryId pk token).Of call .select := by
  unfold doSelectProvider
  split
  · simp [Turn.Of, Event.Of]
  · split
    · simp [Turn.Of, Event.Of]
    · refine Turn.Of.cons (by exact ⟨rfl, rfl⟩) ?_
      split
      · exact of_commitSelection ..
      · split
        · exact of_checkAmount ..
        · split
          · simp [Turn.Of, Event.Of]
          · exact of_commitSelection ..

theorem of_amountChecked (p : Selection) (call : Nat) (sats : JsNumber)
    (check : EscrowAmountResult) : (p.amountChecked call sats check).Of call .select := by
  refine Turn.Of.cons (by exact ⟨rfl, rfl⟩) ?_
  split
  · exact of_checkLock ..
  · simp [Turn.Of, Event.Of]

theorem of_lockChecked (p : Selection) (call : Nat) (hash : String)
    (check : EscrowTokenLockResult) : (p.lockChecked call hash check).Of call .select := by
  refine Turn.Of.cons (by exact ⟨rfl, rfl⟩) ?_
  split
  · exact of_commitSelection ..
  · simp [Turn.Of, Event.Of]

theorem of_settle (deps : ServiceDeps) (p : EscrowSubmission) (call : Nat) (updated : Query) :
    (settle deps p call updated).Of call .escrow := by
  unfold settle returnVerdict
  split
  · split <;> simp [Turn.Of, Event.Of, Pending.method]
  · split <;> simp [Turn.Of, Event.Of, Pending.method]
  · simp [Turn.Of, Event.Of]

theorem of_gotSignature (call : Nat) (signature : Option (List String)) (updated : Query) :
    (gotSignature call signature updated).Of call .escrow := by
  unfold gotSignature returnVerdict
  split <;> simp [Turn.Of, Event.Of]

theorem of_resume {p : Pending} (h : p.resume deps call now answer = some turn) :
    turn.Of call p.method := by
  cases resumes_of_resume h with
  | submitted =>
    unfold Submission.finish
    split <;> simp [Turn.Of, Event.Of, Pending.method]
  | amountChecked => exact of_amountChecked ..
  | lockChecked => exact of_lockChecked ..
  | verified =>
    refine Turn.Of.cons (by simp [Event.Of, Pending.method]) ?_
    split
    · exact of_settle ..
    · simp [returnVerdict, Turn.Of, Event.Of, Pending.method]
  | gotPreimage =>
    unfold gotPreimage returnVerdict
    split <;> simp [Turn.Of, Event.Of, Pending.method]
  | deletedPreimage => simp [returnPreimage, Turn.Of, Event.Of, Pending.method]
  | gotSignature => exact of_gotSignature ..
  | threw => simp [Turn.Of, Event.Of]

end Anchr.Requests
