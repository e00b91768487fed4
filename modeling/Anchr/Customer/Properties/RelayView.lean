import Anchr.Customer.Properties.Purchase

/-!
# What relays see of a request

A request publishes at most a hash request, a request event and a selection, and relays see all of
them. Two requests that differ only in what is meant for the Provider, the wallet and the mint
cannot be told apart, except by ciphertext.
-/

namespace Anchr.Customer

open Infra Protocol

/-! ## Statement -/

/-- What a request publishes. -/
inductive Publication where
  | hashRequest (dm : Protocol.Event)
  | request (requestEvent : Protocol.Event)
  | selection (selectionEvent : Protocol.Event)

def Event.publication : Event → Option Publication
  | .hashRequestPublished _ dm => some (.hashRequest dm)
  | .requestPublished _ requestEvent => some (.request requestEvent)
  | .selectionPublished _ selectionEvent => some (.selection selectionEvent)
  | _ => none

/-- The offer that a request selects. -/
def Event.offer : Event → Option Offer
  | .offerSelected _ offer => some offer
  | _ => none

/-- Everything but the ciphertext, and the id, which is a hash that covers it. -/
structure SameEnvelope (event event' : Protocol.Event) : Prop where
  kind : event.kind = event'.kind
  createdAt : event.createdAt = event'.createdAt
  tags : event.tags = event'.tags
  pubkey : event.pubkey = event'.pubkey

/-- What a relay cannot tell apart: equal request events, the others up to their ciphertext. -/
def Alike : Publication → Publication → Prop
  | .hashRequest dm, .hashRequest dm' => SameEnvelope dm dm'
  | .request event, .request event' => event = event'
  | .selection event, .selection event' => SameEnvelope event event'
  | _, _ => False

/-- Everything that the request event says of the options. -/
structure RequestOptions.SamePublic (options options' : RequestOptions) : Prop where
  schema : options.spec.schema = options'.spec.schema
  maxAmount : options.payment.maxAmount = options'.payment.maxAmount
  regionCode : options.regionCode = options'.regionCode

/-- The draws that decide how a request begins; the nonce is free. -/
structure SameStart (draws draws' : Draws) : Prop where
  nowMs : draws.m.nowMs = draws'.m.nowMs
  identityKey : draws.identityKey = draws'.identityKey
  ephemeralKey : draws.ephemeralKey = draws'.ephemeralKey
  newQueryId : draws.newQueryId = draws'.newQueryId
  oracleSelector : draws.oracleSelector = draws'.oracleSelector

/-- The same answer, where any two thrown values count as the same. -/
def SameAnswer : Answer → Answer → Prop
  | .threw _, .threw _ => True
  | answer, answer' => answer = answer'

/-- The same answer and clock readings. Nonces, selectors and verifiers are free. -/
structure SameInput (b b' : Answer × Draws) : Prop where
  answer : SameAnswer b.1 b'.1
  clockNow : b.2.clockNow = b'.2.clockNow
  nowMs : b.2.m.nowMs = b'.2.m.nowMs

theorem SameInput.refl (b : Answer × Draws) : SameInput b b where
  answer := by cases b.1 <;> trivial
  clockNow := rfl
  nowMs := rfl

def Answer.isBound : Answer → Bool
  | .bound _ => true
  | _ => false

/-- The answers that come before a lock is bound. -/
def beforeLock (bs : List (Answer × Draws)) : List (Answer × Draws) :=
  bs.takeWhile fun b => !b.1.isBound

/-- What the clock says when the selection is built: in the turn of the lock, or in the next one if
there is change to report. -/
def sentAt : List (Answer × Draws) → Option JsNumber
  | [] => none
  | (.bound lock, draws) :: bs =>
    if lock.paymentChangeProofs.isEmpty then some draws.m.nowMs
    else bs.head?.map fun b => b.2.m.nowMs
  | _ :: bs => sentAt bs

/-- Whether an encryption throws does not depend on its nonce. -/
def NonceFree (N : NostrTools) : Prop :=
  ∀ content key nonce nonce', (N.nip44Encrypt content key nonce).isSome =
    (N.nip44Encrypt content key nonce').isSome

/-- The same Customer at another mint. -/
abbrev CustomerContext.atMint (cfg : CustomerContext) (mint : String) : CustomerContext :=
  { cfg with mint := mint }

section

variable {N : NostrTools} {cfg : CustomerContext} {mint : String}

/-! ## Where two requests stand -/

/-- The two requests agree on what they publish. -/
structure SamePublic (r : Request N cfg) (r' : Request N (cfg.atMint mint)) : Prop where
  identity : r.identity = r'.identity
  queryId : r.queryId = r'.queryId
  oraclePubkey : r.oraclePubkey = r'.oraclePubkey
  options : r.options.SamePublic r'.options

/-- Both are about to do the same. The offers that they have collected may differ. -/
inductive LowEq : Pending N cfg → Pending N (cfg.atMint mint) → Prop
  | requestingHash {r : Request N cfg} {r' : Request N (cfg.atMint mint)} :
      SamePublic r r' → LowEq (.requestingHash r) (.requestingHash r')
  | publishingHash {r : Request N cfg} {r' : Request N (cfg.atMint mint)} (ephemeral : Keypair N)
      (settled : Option (Option String)) : SamePublic r r' →
        LowEq (.publishingHash r ephemeral settled) (.publishingHash r' ephemeral settled)
  | awaitingHash {r : Request N cfg} {r' : Request N (cfg.atMint mint)} (ephemeral : Keypair N) :
      SamePublic r r' → LowEq (.awaitingHash r ephemeral) (.awaitingHash r' ephemeral)
  | publishingRequest {r : Published N cfg} {r' : Published N (cfg.atMint mint)} :
      SamePublic r.toRequest r'.toRequest → r.requestEvent = r'.requestEvent →
        LowEq (.publishingRequest r) (.publishingRequest r')
  | writingRequest {r : Published N cfg} {r' : Published N (cfg.atMint mint)} :
      SamePublic r.toRequest r'.toRequest → r.requestEvent = r'.requestEvent →
        LowEq (.writingRequest r) (.writingRequest r')
  | collectingOffers {r : Published N cfg} {r' : Published N (cfg.atMint mint)}
      (collected collected' : List Offer × Nat) :
      SamePublic r.toRequest r'.toRequest → r.requestEvent = r'.requestEvent →
        LowEq (.collectingOffers r collected) (.collectingOffers r' collected')
  | binding {r : Chosen N cfg} {r' : Chosen N (cfg.atMint mint)} :
      SamePublic r.toRequest r'.toRequest → r.requestEvent = r'.requestEvent →
        r.selected = r'.selected → LowEq (.binding r) (.binding r')

/-- Two turns publish alike, select the same offer and stop at the same place. -/
structure TurnsAlike (turn : Turn N cfg) (turn' : Turn N (cfg.atMint mint)) : Prop where
  published : List.Forall₂ Alike (turn.events.filterMap Event.publication)
    (turn'.events.filterMap Event.publication)
  offers : turn.events.filterMap Event.offer = turn'.events.filterMap Event.offer
  pending : Option.Rel LowEq turn.pending turn'.pending

/-! ## Turns -/

variable {t t' : Tables} {call call' : Nat}

variable {events evs : List Event} {p : Pending N cfg} {p' : Pending N (cfg.atMint mint)}
  {r' : Published N (cfg.atMint mint)} {r : Published N cfg} {bs : List (Answer × Draws)}
  {o : Option (Pending N cfg)} {turn : Turn N cfg} {draws draws' : Draws} {b : Answer × Draws}
  {turn' : Turn N (cfg.atMint mint)} {options' options : RequestOptions}

section

variable {r : Request N cfg} {r' : Request N (cfg.atMint mint)} (h : SamePublic r r')

include h

theorem matchHash_eq (ephemeral : Keypair N) (event : Protocol.Event) :
    matchHash r ephemeral event = matchHash r' ephemeral event := by
  simp only [matchHash, h.queryId, h.oraclePubkey]

variable (hclock : draws.clockNow = draws'.clockNow) (hnow : draws.m.nowMs = draws'.m.nowMs)

include hclock hnow

/-- A request event is made of public parts only. -/
theorem requestEvent_eq :
    buildQueryRequestEvent N cfg.text cfg.toUpperCase r.identity (r.payload draws.clockNow)
        r.options.regionCode draws.m.nowMs =
      buildQueryRequestEvent N cfg.text cfg.toUpperCase r'.identity (r'.payload draws'.clockNow)
        r'.options.regionCode draws'.m.nowMs := by
  simp only [Request.payload, h.identity, h.queryId, h.oraclePubkey, h.options.schema,
    h.options.maxAmount, h.options.regionCode, hclock, hnow]
  rfl

theorem alike_hashReady (hash : String) :
    TurnsAlike (hashReady t call r hash draws) (hashReady t' call' r' hash draws') where
  published := .cons (requestEvent_eq h hclock hnow) .nil
  offers := rfl
  pending := .some (.publishingRequest h (requestEvent_eq h hclock hnow))

theorem alike_hashSettled (hash : Option String) :
    TurnsAlike (hashSettled t call r draws hash) (hashSettled t' call' r' draws' hash) := by
  cases hash with
  | none => exact ⟨.nil, rfl, .none⟩
  | some hash => exact alike_hashReady h hclock hnow hash

theorem alike_hashArrived (ephemeral : Keypair N) (event : Protocol.Event) :
    TurnsAlike (hashArrived t call r ephemeral event draws)
      (hashArrived t' call' r' ephemeral event draws') := by
  unfold hashArrived
  rw [matchHash_eq h]
  cases matchHash r' ephemeral event with
  | none => exact ⟨.nil, rfl, .some (.awaitingHash ephemeral h)⟩
  | some hash => exact alike_hashReady h hclock hnow hash

theorem alike_hashRequestSent (ephemeral : Keypair N) (settled : Option (Option String))
    (successes failures : List String) :
    TurnsAlike (hashRequestSent t call r ephemeral settled successes failures draws)
      (hashRequestSent t' call' r' ephemeral settled successes failures draws') := by
  unfold hashRequestSent
  split
  next => exact ⟨.nil, rfl, .none⟩
  cases settled with
  | none => exact ⟨.nil, rfl, .some (.awaitingHash ephemeral h)⟩
  | some hash => exact alike_hashSettled h hclock hnow hash

end

theorem alike_requestSent (h : SamePublic r.toRequest r'.toRequest)
    (hevent : r.requestEvent = r'.requestEvent) (successes failures : List String)
    (draws draws' : Draws) :
    TurnsAlike (requestSent t call r successes failures draws)
      (requestSent t' call' r' successes failures draws') := by
  unfold requestSent
  split
  next => exact ⟨.nil, rfl, .none⟩
  cases hstore : cfg.stateStore with
  | true => exact ⟨.nil, rfl, .some (.writingRequest h hevent)⟩
  | false => exact ⟨.nil, rfl, .some (.collectingOffers _ _ h hevent)⟩

/-- The turn selects the first of the offers, and there are no more if the request is over. -/
structure OffersFrom (offers : List Offer) (turn : Turn N cfg) : Prop where
  starts : ∃ rest, offers = turn.events.filterMap Event.offer ++ rest ∧
    (turn.pending = none → rest = [])

theorem OffersFrom.of_feeds (h : (customerService N cfg).Feeds call turn bs evs o) :
    OffersFrom (evs.filterMap Event.offer) turn := by
  obtain ⟨rest, rfl, hrest⟩ := h.events_eq
  refine ⟨rest.filterMap Event.offer, List.filterMap_append, fun hnone => ?_⟩
  rw [hrest hnone]
  rfl

variable {offers : List Offer} {m : Moment}

theorem alike_offersCollected (h : SamePublic r.toRequest r'.toRequest)
    (hevent : r.requestEvent = r'.requestEvent) {collected collected' : List Offer × Nat}
    (hoffers : OffersFrom offers (offersCollected t call r collected draws))
    (hoffers' : OffersFrom offers (offersCollected t' call' r' collected' draws')) :
    TurnsAlike (offersCollected t call r collected draws)
      (offersCollected t' call' r' collected' draws') := by
  obtain ⟨rest, hrest, hnone⟩ := hoffers.starts
  obtain ⟨rest', hrest', hnone'⟩ := hoffers'.starts
  rcases offersCollected_cases t call r collected draws with ⟨reason, heq⟩ | ⟨chosen, rfl, heq⟩ <;>
    rcases offersCollected_cases t' call' r' collected' draws' with
      ⟨reason', heq'⟩ | ⟨chosen', rfl, heq'⟩ <;>
    rw [heq] at hrest hnone ⊢ <;>
    rw [heq'] at hrest' hnone' ⊢ <;>
    rw [hrest] at hrest'
  · exact ⟨.nil, rfl, .none⟩
  · rw [hnone rfl] at hrest'
    cases hrest'
  · rw [hnone' rfl] at hrest'
    cases hrest'
  · have hselected : chosen.selected = chosen'.selected := (List.cons.inj hrest').1
    exact ⟨.nil, congrArg (fun offer => [offer]) hselected, .some (.binding h hevent hselected)⟩

theorem SameAnswer.cases {answer answer' : Answer} (h : SameAnswer answer answer') :
    (∃ value value', answer = .threw value ∧ answer' = .threw value') ∨
      (answer = answer' ∧ ∀ value, answer ≠ .threw value) := by
  cases answer with
  | threw value =>
    cases answer' with
    | threw value' => exact .inl ⟨value, value', rfl, rfl⟩
    | _ => cases h
  | _ => exact .inr ⟨h, by simp⟩

/-- At the same place and with the same answer, two requests take turns that are alike. -/
theorem alike_resume (h : LowEq p p') {b' : Answer × Draws} (hb : SameInput b b')
    (hunbound : b.1.isBound = false) (hturn : resume N cfg t call p b = some turn)
    (hturn' : resume N (cfg.atMint mint) t' call' p' b' = some turn')
    (hoffers : OffersFrom offers turn) (hoffers' : OffersFrom offers turn') :
    TurnsAlike turn turn' := by
  obtain ⟨answer, draws⟩ := b
  obtain ⟨answer', draws'⟩ := b'
  obtain ⟨hanswer, hclock, hnow⟩ := hb
  rcases hanswer.cases with ⟨value, value', rfl, rfl⟩ | ⟨rfl, hthrew⟩
  · cases h <;>
    · cases hturn
      cases hturn'
      exact ⟨.nil, rfl, .none⟩
  -- what is awaited resolves: one kind of answer for each place, two for the waits
  cases h <;> cases answer <;> first
    | exact absurd rfl (hthrew _)
    | (cases hturn; done)
    | (cases hunbound; done)
    | (cases hturn; cases hturn')
  next h _ => exact alike_hashReady h hclock hnow _
  next ephemeral settled h _ _ => exact alike_hashRequestSent h hclock hnow ephemeral settled _ _
  next ephemeral _ h _ =>
    rw [matchHash_eq h]
    exact ⟨.nil, rfl, .some (.publishingHash ephemeral _ h)⟩
  next ephemeral _ h => exact ⟨.nil, rfl, .some (.publishingHash ephemeral _ h)⟩
  next ephemeral h _ => exact alike_hashArrived h hclock hnow ephemeral _
  next => exact ⟨.nil, rfl, .none⟩
  next h hevent _ _ => exact alike_requestSent h hevent _ _ draws draws'
  next h hevent => exact ⟨.nil, rfl, .some (.collectingOffers _ _ h hevent)⟩
  next h hevent _ => exact ⟨.nil, rfl, .some (.collectingOffers _ _ h hevent)⟩
  next h hevent => exact alike_offersCollected h hevent hoffers hoffers'

/-! ## The first turn -/

/-- The same hash request under two nonces. -/
theorem alike_hashRequest (hN : NonceFree N) (T : NumberText) (identity : Keypair N)
    (oraclePubkey : String) (payload : HashRequestPayload) {m' : Moment}
    (hnow : m.nowMs = m'.nowMs) :
    Option.Rel SameEnvelope (buildHashRequestEvent N T identity oraclePubkey payload m)
      (buildHashRequestEvent N T identity oraclePubkey payload m') := by
  unfold buildHashRequestEvent encryptedDm encryptNip44
  cases N.getConversationKey identity.secretKey oraclePubkey with
  | none => exact .none
  | some key =>
    have hsome := hN (stringifyPayload T [("type", .str "hash_request"),
      ("query_id", .str payload.queryId)] payloadVersion) key m.nonce m'.nonce
    dsimp only [Option.bind_some]
    revert hsome
    cases N.nip44Encrypt _ key m.nonce <;> cases N.nip44Encrypt _ key m'.nonce <;> intro hsome
    · exact .none
    · cases hsome
    · cases hsome
    · exact .some ⟨rfl, congrArg (fun now => (now.scale (1 / 1000)).floor) hnow, rfl, rfl⟩

theorem keypair_eq {secretKey secretKey' : String} (h : secretKey = secretKey') :
    (⟨secretKey, N.getPublicKey secretKey, rfl⟩ : Keypair N) =
      ⟨secretKey', N.getPublicKey secretKey', rfl⟩ := by
  subst h
  rfl

theorem alike_requestHash (hN : NonceFree N) {r : Request N cfg} {r' : Request N (cfg.atMint mint)}
    (h : SamePublic r r') (client : Bool) (hdraws : SameStart draws draws') :
    TurnsAlike (requestHash t call [.requestStarted call options] r client draws)
      (requestHash t' call' [.requestStarted call' options'] r' client draws') := by
  cases client with
  | true => exact ⟨.nil, rfl, .some (.requestingHash h)⟩
  | false =>
    unfold requestHash
    simp only [Bool.false_eq_true, ↓reduceIte]
    rw [h.oraclePubkey, h.queryId, keypair_eq hdraws.ephemeralKey]
    split
    next => exact ⟨.nil, rfl, .none⟩
    have hdm := alike_hashRequest hN cfg.text
      ⟨draws'.ephemeralKey, N.getPublicKey draws'.ephemeralKey, rfl⟩ r'.oraclePubkey
      { queryId := r'.queryId } hdraws.nowMs
    revert hdm
    cases buildHashRequestEvent N cfg.text _ r'.oraclePubkey _ draws.m <;>
      cases buildHashRequestEvent N cfg.text _ r'.oraclePubkey _ draws'.m <;> intro hdm
    · exact ⟨.nil, rfl, .none⟩
    · cases hdm
    · cases hdm
    · cases hdm with
      | some hdm => exact ⟨.cons hdm .nil, rfl, .some (.publishingHash _ none h)⟩

/-- So are their first turns. -/
theorem alike_request (hN : NonceFree N) (hvalid : validateRequest cfg options = none)
    (hvalid' : validateRequest (cfg.atMint mint) options' = none)
    (hoptions : options.SamePublic options') (hdraws : SameStart draws draws') :
    TurnsAlike (request t call (options, draws) : Turn N cfg)
      (request t' call' (options', draws') : Turn N (cfg.atMint mint)) := by
  rw [request_of_accepted hvalid, request_of_accepted hvalid', hdraws.oracleSelector,
    hdraws.newQueryId]
  cases draws'.oracleSelector (cfg.oracles.map CustomerOracle.pubkey) with
  | error err => exact ⟨.nil, rfl, .none⟩
  | ok expectedOracle =>
    dsimp only
    cases findCustomerOracle cfg.oracles expectedOracle with
    | none => exact ⟨.nil, rfl, .none⟩
    | some selectedOracle =>
      cases draws'.newQueryId with
      | error err => exact ⟨.nil, rfl, .none⟩
      | ok queryId =>
        exact alike_requestHash hN ⟨keypair_eq hdraws.identityKey, rfl, rfl, hoptions⟩
          selectedOracle.client hdraws

/-! ## After the lock -/

theorem publication_none {e : Event} (h : 9 ≤ e.stage) : e.publication = none := by
  cases e with
  | hashRequestPublished | requestPublished | selectionPublished =>
    simp only [Event.stage] at h
    omega
  | _ => rfl

/-- Behind the selection nothing is published. -/
theorem publications_quiet (h : (customerService N cfg).Feeds call turn bs evs o)
    (hstage : ∀ p, turn.pending = some p → 9 ≤ p.stage) :
    evs.filterMap Event.publication = turn.events.filterMap Event.publication := by
  induction h with
  | done turn => rfl
  | @next turn turn' p t b bs evs o hpending hresume _ ih =>
    have hturn : (stages N cfg fun _ _ _ => True).Advances call p.stage
        (fun evs => p.Known call evs) turn' :=
      advances_of_resume (fun _ _ _ _ _ => trivial) hresume
    have hp := hstage p hpending
    have hquiet : turn'.events.filterMap Event.publication = [] :=
      List.filterMap_eq_nil_iff.mpr fun e he =>
        publication_none (Nat.le_trans hp (hturn.after e he))
    rw [List.filterMap_append, ih fun q hq => Nat.le_trans hp (hturn.next q hq).1, hquiet,
      List.append_nil]

theorem envelope_of_selection {T : NumberText} {identity : Keypair N} {requestEventId : String}
    {payload : SelectionContent} {event : Protocol.Event}
    (h : buildSelectionFeedbackEvent N T identity requestEventId payload m = some event) :
    event.kind = kindQueryFeedback ∧ event.createdAt = (m.nowMs.scale (1 / 1000)).floor ∧
      event.tags = [["e", requestEventId, "", "request"], ["p", payload.selectedProviderPubkey],
        ["status", "processing"]] ∧
      event.pubkey = N.getPublicKey identity.secretKey := by
  obtain ⟨plaintext, -, h⟩ := Option.bind_eq_some_iff.mp h
  obtain ⟨ciphertext, -, rfl⟩ := Option.map_eq_some_iff.mp h
  exact ⟨rfl, rfl, rfl, rfl⟩

/-- All that is published from here on is the selection. -/
def SendsSelection (r : Chosen N cfg) (now : JsNumber) (evs : List Event) : Prop :=
  ∃ event, evs.filterMap Event.publication = [.selection event] ∧
    event.kind = kindQueryFeedback ∧ event.createdAt = (now.scale (1 / 1000)).floor ∧
    event.tags = [["e", r.requestEvent.id, "", "request"], ["p", r.selected.providerPubkey],
      ["status", "processing"]] ∧
    event.pubkey = N.getPublicKey r.identity.secretKey

theorem events_of_rejected {reason : Thrown}
    (h : (customerService N cfg).Feeds call (rejected t call events reason) bs evs o) :
    evs = events ++ [.rejected call reason] := by
  cases h with
  | done => rfl
  | next hpending => cases hpending

theorem unsent_of_quiet (h : events.filterMap Event.publication = []) (event : Protocol.Event) :
    .selectionPublished call event ∉ events := fun hmem => by
  cases List.filterMap_eq_nil_iff.mp h _ hmem

theorem resume_reportingChange {r : Bound N cfg}
    (h : resume N cfg t call (.reportingChange r) b = some turn) :
    (∃ reason, turn = rejected t call [] reason) ∨ turn = sendSelection t call [] r b.2 := by
  obtain ⟨answer, draws⟩ := b
  cases answer with
  | threw value =>
    cases h
    exact .inl ⟨_, lockFailed_eq⟩
  | resolved =>
    cases h
    exact .inr rfl
  | _ => cases h

theorem sends_sendSelection {r : Bound N cfg} (hevents : events.filterMap Event.publication = [])
    (h : (customerService N cfg).Feeds call (sendSelection t call events r draws) bs evs o)
    (hsent : ∃ event, .selectionPublished call event ∈ evs) :
    SendsSelection r.toChosen draws.m.nowMs evs := by
  unfold sendSelection at h
  split at h
  next =>
    rw [lockFailed_eq] at h
    obtain ⟨event, hmem⟩ := hsent
    rw [events_of_rejected h] at hmem
    refine absurd hmem (unsent_of_quiet ?_ event)
    rw [List.filterMap_append, hevents]
    rfl
  next event hbuilt =>
    refine ⟨event, ?_, envelope_of_selection hbuilt⟩
    rw [publications_quiet h fun p hp => by obtain rfl := Option.some.inj hp; exact Nat.le_refl 9,
      List.filterMap_append, hevents]
    rfl

/-- A request whose lock is bound, and that gets to its selection, publishes it once. -/
theorem sends_lockBound {r : Chosen N cfg} {lock : CashuToken}
    (h : (customerService N cfg).Feeds call (lockBound t call r lock draws) bs evs o)
    (hsent : ∃ event, .selectionPublished call event ∈ evs) :
    ∃ now, sentAt ((.bound lock, draws) :: bs) = some now ∧ SendsSelection r now evs := by
  unfold lockBound at h
  dsimp only at h
  split at h
  next hamount =>
    split at h
    next hempty =>
      exact ⟨_, if_pos hempty,
        sends_sendSelection (r := { r with lock, amount := hamount }) rfl h hsent⟩
    next hchange =>
      -- the change is reported, and the answer to that is the next one
      have hquiet : ([Event.lockBound call lock] ++ if r.options.onPaymentChange = true then
          [Event.changeReported call lock.paymentChangeProofs] else []).filterMap
            Event.publication = [] := by
        split <;> rfl
      obtain ⟨event, hmem⟩ := hsent
      cases h with
      | done => exact absurd hmem (unsent_of_quiet hquiet event)
      | next hpending hresume hrest =>
        cases hpending
        have hlater := (List.mem_append.mp hmem).resolve_left (unsent_of_quiet hquiet event)
        rcases resume_reportingChange hresume with ⟨reason, rfl⟩ | rfl
        · rw [events_of_rejected hrest] at hlater
          exact absurd hlater (unsent_of_quiet rfl event)
        · obtain ⟨event', hpublished, henvelope⟩ := sends_sendSelection rfl hrest ⟨event, hlater⟩
          refine ⟨_, if_neg hchange, event', ?_, henvelope⟩
          rw [List.filterMap_append, hquiet, hpublished, List.nil_append]
  rw [lockFailed_eq] at h
  obtain ⟨event, hmem⟩ := hsent
  rw [events_of_rejected h] at hmem
  exact absurd hmem (unsent_of_quiet rfl event)

/-! ## Runs -/

/-- `bindProvider`, the report of change and the serialisation succeed: a request that calls
`bindProvider` gets to its selection. -/
def Selects (call : Nat) (evs : List Event) : Prop :=
  ∀ params, .bindCalled call params ∈ evs → ∃ event, .selectionPublished call event ∈ evs

/-- What a request has emitted, and where it is. -/
abbrev Reached (call : Nat) (evs : List Event) (o : Option (Pending N cfg)) : Prop :=
  (stages N cfg fun _ _ _ => True).Progress call evs o

theorem Reached.resume (h : Reached call evs (some p))
    (hresume : Customer.resume N cfg t call p b = some turn) :
    Reached call (evs ++ turn.events) turn.pending :=
  Stages.Progress.resume h (advances_of_resume (fun _ _ _ _ _ => trivial) hresume)

section

variable {r : Chosen N cfg}

theorem Reached.unsent (h : Reached call evs (some (.binding r))) (event : Protocol.Event) :
    .selectionPublished call event ∉ evs := fun hmem =>
  absurd ((h.suspended _ rfl).1 _ hmem) (by simp [Event.stage, Pending.stage])

theorem Reached.not_selects (h : Reached call evs (some (.binding r))) : ¬ Selects call evs :=
  fun hselects => by
  obtain ⟨event, hmem⟩ := hselects _ (h.suspended _ rfl).2.2.2
  exact h.unsent event hmem

end

/-- The answer with the lock comes at `bindProvider` only. -/
theorem sends_of_bound {pre : List Event} (hreached : Reached call pre (some p))
    (hbound : b.1.isBound = true) (hresume : resume N cfg t call p b = some turn)
    (hrest : (customerService N cfg).Feeds call turn bs evs o)
    (hselects : Selects call (pre ++ evs)) :
    ∃ r now, p = .binding r ∧ sentAt (b :: bs) = some now ∧ SendsSelection r now evs := by
  obtain ⟨answer, draws⟩ := b
  cases answer with
  | bound lock =>
    cases p with
    | binding r =>
      cases hresume
      obtain ⟨event, hmem⟩ :=
        hselects _ (List.mem_append_left _ (hreached.suspended _ rfl).2.2.2)
      obtain ⟨now, hnow, hsends⟩ := sends_lockBound hrest
        ⟨event, (List.mem_append.mp hmem).resolve_left (hreached.unsent event)⟩
      exact ⟨r, now, rfl, hnow, hsends⟩
    | _ => cases hresume
  | _ => cases hbound

theorem beforeLock_bound (h : b.1.isBound = true) (bs : List (Answer × Draws)) :
    beforeLock (b :: bs) = [] := by
  simp [beforeLock, h]

theorem beforeLock_cons (h : b.1.isBound = false) (bs : List (Answer × Draws)) :
    beforeLock (b :: bs) = b :: beforeLock bs := by
  simp [beforeLock, h]

theorem sentAt_cons (h : b.1.isBound = false) (bs : List (Answer × Draws)) :
    sentAt (b :: bs) = sentAt bs := by
  obtain ⟨answer, draws⟩ := b
  cases answer with
  | bound lock => cases h
  | _ => rfl

/-- Two selections for the same offer differ in their ciphertext only. -/
theorem SendsSelection.alike {r : Chosen N cfg} {r' : Chosen N (cfg.atMint mint)}
    (hlow : LowEq (.binding r) (.binding r')) {now : JsNumber} {evs' : List Event}
    (h : SendsSelection r now evs) (h' : SendsSelection r' now evs') :
    List.Forall₂ Alike (evs.filterMap Event.publication) (evs'.filterMap Event.publication) := by
  obtain ⟨event, hpublished, hkind, hcreated, htags, hpubkey⟩ := h
  obtain ⟨event', hpublished', hkind', hcreated', htags', hpubkey'⟩ := h'
  cases hlow with
  | binding hsame hevent hselected =>
    rw [hpublished, hpublished']
    refine .cons ⟨hkind.trans hkind'.symm, hcreated.trans hcreated'.symm, ?_, ?_⟩ .nil
    · rw [htags, htags', hevent, hselected]
    · rw [hpubkey, hpubkey', hsame.identity]

theorem TurnsAlike.right (h : TurnsAlike turn turn') (hp : turn.pending = some p) :
    ∃ p', turn'.pending = some p' ∧ LowEq p p' := by
  have hrel := h.pending
  rw [hp] at hrel
  cases hp' : turn'.pending <;> rw [hp'] at hrel <;> cases hrel
  next p' hlow => exact ⟨p', rfl, hlow⟩

theorem TurnsAlike.left (h : TurnsAlike turn turn') (hp' : turn'.pending = some p') :
    ∃ p, turn.pending = some p ∧ LowEq p p' := by
  have hrel := h.pending
  rw [hp'] at hrel
  cases hp : turn.pending <;> rw [hp] at hrel <;> cases hrel
  next p hlow => exact ⟨p, rfl, hlow⟩

/-- Over the answers, until the locks are bound. -/
theorem alike_feeds (h : (customerService N cfg).Feeds call turn bs evs o) :
    ∀ (pre pre') {turn' : Turn N (cfg.atMint mint)} {bs' evs' o'}, TurnsAlike turn turn' →
      (customerService N (cfg.atMint mint)).Feeds call' turn' bs' evs' o' →
      Reached call (pre ++ turn.events) turn.pending →
      Reached call' (pre' ++ turn'.events) turn'.pending →
      List.Forall₂ SameInput (beforeLock bs) (beforeLock bs') → sentAt bs = sentAt bs' →
      evs.filterMap Event.offer = evs'.filterMap Event.offer →
      Selects call (pre ++ evs) → Selects call' (pre' ++ evs') →
        List.Forall₂ Alike (evs.filterMap Event.publication)
          (evs'.filterMap Event.publication) := by
  induction h with
  | done turn =>
    intro pre pre' turn' bs' evs' o' halike h' hreached hreached' hinputs _ _ hselects hselects'
    cases h' with
    | done => exact halike.published
    | @next _ _ p' _ b' bs' _ _ hpending' hresume' hrest' =>
      cases hbound' : b'.1.isBound with
      | false =>
        rw [beforeLock_cons hbound'] at hinputs
        cases hinputs
      | true =>
        -- the other request has its lock, and this one waits for it
        rw [hpending'] at hreached'
        rw [← List.append_assoc] at hselects'
        obtain ⟨r', _, rfl, -⟩ := sends_of_bound hreached' hbound' hresume' hrest' hselects'
        obtain ⟨p, hp, hlow⟩ := halike.left hpending'
        rw [hp] at hreached
        cases hlow with
        | binding => exact absurd hselects hreached.not_selects
  | @next turn turn₁ p _ b bs evs _ hpending hresume hrest ih =>
    intro pre pre' turn' bs' evs' o' halike h' hreached hreached' hinputs hsentAt hoffers hselects
      hselects'
    obtain ⟨p', hp', hlow⟩ := halike.right hpending
    rw [hpending] at hreached
    rw [hp'] at hreached'
    rw [← List.append_assoc] at hselects
    cases h' with
    | done =>
      cases hbound : b.1.isBound with
      | false =>
        rw [beforeLock_cons hbound] at hinputs
        cases hinputs
      | true =>
        obtain ⟨r, _, rfl, -⟩ := sends_of_bound hreached hbound hresume hrest hselects
        cases hlow with
        | binding => exact absurd hselects' hreached'.not_selects
    | @next _ turn₁' q _ b' bs' evs' _ hpending' hresume' hrest' =>
      obtain rfl : q = p' := Option.some.inj (hpending'.symm.trans hp')
      rw [← List.append_assoc] at hselects'
      rw [List.filterMap_append, List.filterMap_append]
      refine List.rel_append halike.published ?_
      cases hbound : b.1.isBound <;> cases hbound' : b'.1.isBound
      · -- neither has its lock: they go on alike
        rw [beforeLock_cons hbound, beforeLock_cons hbound'] at hinputs
        rw [sentAt_cons hbound, sentAt_cons hbound'] at hsentAt
        have hrestOffers : evs.filterMap Event.offer = evs'.filterMap Event.offer := by
          rw [List.filterMap_append, List.filterMap_append, halike.offers] at hoffers
          exact List.append_cancel_left hoffers
        cases hinputs with
        | cons hb hinputs =>
          have hturns : TurnsAlike turn₁ turn₁' :=
            alike_resume hlow hb hbound hresume hresume' (.of_feeds hrest)
              (hrestOffers ▸ .of_feeds hrest')
          exact ih _ _ hturns hrest' (hreached.resume hresume) (hreached'.resume hresume') hinputs
            hsentAt hrestOffers hselects hselects'
      · rw [beforeLock_cons hbound, beforeLock_bound hbound'] at hinputs
        cases hinputs
      · rw [beforeLock_bound hbound, beforeLock_cons hbound'] at hinputs
        cases hinputs
      · obtain ⟨r, now, rfl, hnow, hsends⟩ :=
          sends_of_bound hreached hbound hresume hrest hselects
        obtain ⟨r', now', rfl, hnow', hsends'⟩ :=
          sends_of_bound hreached' hbound' hresume' hrest' hselects'
        rw [hnow, hnow'] at hsentAt
        cases hsentAt
        exact hsends.alike hlow hsends'

end

/-! ## Main result -/

variable {cfg : CustomerContext} {N : NostrTools}

/-- Whatever the other requests of a run do, a request gets its answers one after the other. -/
theorem feeds_of_request
    {G : CallState Tables (Pending N cfg) →
      CallAction (RequestOptions × Draws) (Answer × Draws) → Prop} {store : JsMap String String}
    {tr : List Event} {s : CallState Tables (Pending N cfg)}
    (h : Run (customerService N cfg).machine G (initialState N cfg store) tr s) {call : Nat}
    (hcall : call < s.nextCall) :
    ∃ t a bs, (customerService N cfg).Feeds call ((customerService N cfg).begin t call a) bs
      (ownEvents Event.callOf call tr) (s.calls.get? call) := by
  obtain ⟨a, htrace⟩ := (names N cfg).trace_of_run rfl rfl h hcall
  obtain ⟨t, bs, hfeeds⟩ := htrace.feeds
  exact ⟨t, a, bs, hfeeds⟩

/-- Two requests whose options agree on what is public, which draw the same identities and the same
query id, get the same answers up to their locks, select the same offer and read the same clock,
publish the same: as many events in the same order, the same request event, and hash requests and
selections that differ in their ciphertext only. Mints and locks may differ, and what comes after
the selection. -/
theorem relay_view_independent {N : NostrTools} (hN : NonceFree N) {cfg cfg' : CustomerContext}
    (hcfg : cfg' = cfg.atMint cfg'.mint) {options options' : RequestOptions}
    (hoptions : options.SamePublic options') (hvalid : validateRequest cfg options = none)
    (hvalid' : validateRequest cfg' options' = none) {draws draws' : Draws}
    (hdraws : SameStart draws draws') {t t' : Tables} {call call' : Nat}
    {bs bs' : List (Answer × Draws)} {evs evs' : List Event} {o : Option (Pending N cfg)}
    {o' : Option (Pending N cfg')}
    (h : (customerService N cfg).Feeds call
      ((customerService N cfg).begin t call (options, draws)) bs evs o)
    (h' : (customerService N cfg').Feeds call'
      ((customerService N cfg').begin t' call' (options', draws')) bs' evs' o')
    (hinputs : List.Forall₂ SameInput (beforeLock bs) (beforeLock bs'))
    (hsentAt : sentAt bs = sentAt bs')
    (hoffers : evs.filterMap Event.offer = evs'.filterMap Event.offer)
    (hselects : Selects call evs) (hselects' : Selects call' evs') :
    List.Forall₂ Alike (evs.filterMap Event.publication) (evs'.filterMap Event.publication) := by
  generalize cfg'.mint = mint at hcfg
  subst hcfg
  exact alike_feeds h [] [] (alike_request hN hvalid hvalid' hoptions hdraws) h'
    (.begin (advances_request _ _ _)) (.begin (advances_request _ _ _)) hinputs hsentAt hoffers
    hselects hselects'

/-! ## Two such requests -/

theorem Helpers.Serve.atMint {cfg : CustomerContext} {h : Helpers} {options : RequestOptions}
    (hs : h.Serve cfg options) (mint : String) : h.Serve (cfg.atMint mint) options :=
  { hs with }

theorem feeds_of_serve {h : Helpers} {options : RequestOptions} (hs : h.Serve cfg options)
    (hstore : cfg.stateStore = false) (hchange : h.lock.paymentChangeProofs = []) (t : Tables)
    (call : Nat) {selectionEvent : Protocol.Event}
    (hbuilt : buildSelectionFeedbackEvent N cfg.text (hs.bound : Bound N cfg).identity
      (hs.bound : Bound N cfg).requestEvent.id
      ((hs.bound : Bound N cfg).toChosen.selection h.lock) h.draws.m = some selectionEvent) :
    (customerService N cfg).Feeds call
      ((customerService N cfg).begin t call (options, h.draws)) h.inputs
      [.requestStarted call options,
        .requestPublished call (hs.published : Published N cfg).requestEvent,
        .offerSelected call h.collected, .bindCalled call (hs.bound : Bound N cfg).bindParams,
        .lockBound call h.lock, .selectionPublished call selectionEvent]
      (some (.publishingSelection
        { (hs.bound : Bound N cfg) with selectionEvent, selects := ⟨h.draws.m, hbuilt⟩ })) := by
  show (customerService N cfg).Feeds call (request t call (options, h.draws)) _ _ _
  rw [request_of_serve hs]
  exact .next (t := t) rfl rfl (.next rfl (resume_sent t call hs hstore)
    (.next rfl (resume_received t call hs) (.next rfl (resume_collected t call hs)
      (.next rfl (resume_bound t call hs hchange hbuilt) (.done _)))))

/-- A request for a predicate at one mint, and a request for another at another mint. -/
theorem relay_view_independent_plain :
    ∃ evs evs' o o', (customerService Oracle.plainNostr plainContext).Feeds 0
        ((customerService Oracle.plainNostr plainContext).begin {} 0
          (plainOptions .null, plainDraws)) plainHelpers.inputs evs o ∧
      (customerService Oracle.plainNostr (plainContext.atMint "https://n.test")).Feeds 0
        ((customerService Oracle.plainNostr (plainContext.atMint "https://n.test")).begin {} 0
          (plainOptions (.str "secret"), plainDraws)) plainHelpers.inputs evs' o' ∧
      (evs.filterMap Event.publication).length = 2 ∧
      List.Forall₂ Alike (evs.filterMap Event.publication)
        (evs'.filterMap Event.publication) := by
  have hs := serve_plainOptions .null
  have hs' := (serve_plainOptions (.str "secret")).atMint "https://n.test"
  have hnull : (JsValue.null).written ≠ .threw := fun h => by cases h
  have hstr : (JsValue.str "secret").written ≠ .threw := fun h => by cases h
  have hundefined : (JsValue.undefined).written ≠ .threw := fun h => by cases h
  obtain ⟨event, hbuilt⟩ := plainNostr_builds (T := .safeIntegers)
    (hs.bound : Bound Oracle.plainNostr _).identity
    (hs.bound : Bound Oracle.plainNostr _).requestEvent.id
    ((hs.bound : Bound Oracle.plainNostr _).toChosen.selection plainHelpers.lock) plainDraws.m
    hnull hundefined
  obtain ⟨event', hbuilt'⟩ := plainNostr_builds (T := .safeIntegers)
    (hs'.bound : Bound Oracle.plainNostr _).identity
    (hs'.bound : Bound Oracle.plainNostr _).requestEvent.id
    ((hs'.bound : Bound Oracle.plainNostr _).toChosen.selection plainHelpers.lock) plainDraws.m
    hstr hundefined
  have hfeeds := feeds_of_serve hs rfl rfl {} 0 hbuilt
  have hfeeds' := feeds_of_serve hs' rfl rfl {} 0 hbuilt'
  refine ⟨_, _, _, _, hfeeds, hfeeds', rfl, ?_⟩
  have hcfg : plainContext.atMint "https://n.test" =
      plainContext.atMint (plainContext.atMint "https://n.test").mint := rfl
  have hoptions : (plainOptions .null).SamePublic (plainOptions (.str "secret")) :=
    ⟨rfl, rfl, rfl⟩
  have hdraws : SameStart plainHelpers.draws plainHelpers.draws := ⟨rfl, rfl, rfl, rfl, rfl⟩
  exact relay_view_independent (fun _ _ _ _ => rfl) hcfg hoptions hs.accepted hs'.accepted hdraws
    hfeeds hfeeds' (List.forall₂_same.mpr fun b _ => .refl b) rfl rfl
    (fun _ _ => ⟨event, by simp⟩) (fun _ _ => ⟨event', by simp⟩)

end Anchr.Customer
