import Anchr.Oracle.Properties.Delivery
import Anchr.Protocol.Properties.WireCodec
import Anchr.Provider.Job

/-!
# A job that everyone serves

A job that gets from the others what it waits for goes on to the redemption of its token.
-/

namespace Anchr.Provider

open Infra Protocol

/-- What the others answer. -/
structure Helpers where
  amountSats : JsNumber
  selectionEvent : Protocol.Event
  hash : String
  hashEvent : Protocol.Event
  data : Option Json
  proof : ProofEvidence
  preimageEvent : Protocol.Event
  draws : Draws

/-- The token and the preimage that are redeemed. -/
def Event.redemption : Event → Option (String × String)
  | .redeemCalled _ params => some (params.token, params.preimageHex)
  | _ => none

section

variable {N : NostrTools} {cfg : JobContext N}

/-- The offer is within the budget, the Customer selects it, the Oracle answers the request for a
hash, the result can be encrypted, and the Oracle sends a preimage. -/
structure Helpers.Serve (h : Helpers) (job : Job cfg) (selection : Selection) (preimage : String) :
    Prop where
  positive : h.amountSats.le (.ofInt 0) = false
  withinBudget : job.payload.maxAmountSats.lt h.amountSats = false
  selected : matchSelection cfg job.payload.customerPubkey h.selectionEvent = some selection
  agrees : selection.Agrees cfg job.payload h.amountSats
  oracle : cfg.oracleClients.contains job.payload.oraclePubkey ≠ true ∧
    job.payload.oraclePubkey ≠ ""
  asked : ∃ dm, buildHashRequestEvent N cfg.text
    ⟨h.draws.ephemeralKey, N.getPublicKey h.draws.ephemeralKey, rfl⟩ job.payload.oraclePubkey
    { queryId := job.payload.queryId } h.draws.m = some dm
  hash : ∃ hash, parseHashResponseEvent N cfg.text h.hashEvent h.draws.ephemeralKey
    job.payload.oraclePubkey = some { queryId := job.payload.queryId, hash := hash }
  result : ∃ responseEvent, buildQueryResponseEvent N cfg.text cfg.identity job.event.id
    job.payload.customerPubkey job.payload.schema h.data h.proof (some job.payload.oraclePubkey)
    (some job.payload.queryId) h.draws.m h.draws.oracleNonce = some responseEvent
  preimage : Oracle.matchPreimage N cfg.text cfg.identity job.payload.oraclePubkey
    job.payload.queryId job.event.id h.preimageEvent = some preimage

/-! ## Turns -/

variable {t : Tables} {call : Nat} {event : Protocol.Event}

theorem handlerReturned_of_offer {job : Job cfg} {amountSats : JsNumber}
    (hpositive : amountSats.le (.ofInt 0) = false)
    (hbudget : job.payload.maxAmountSats.lt amountSats = false) (draws : Draws) :
    ∃ offered : Offered cfg, offered.toJob = job ∧ offered.amountSats = amountSats ∧ ∀ t call,
      handlerReturned t call job (some { amountSats := some amountSats }) draws =
        { shared := t
          events := [.offerPublished call amountSats offered.offerEvent]
          pending := some (.publishingOffer offered) } := by
  refine ⟨{ job with
    amountSats, offerEvent := _, withinBudget := hbudget, built := ⟨draws.m, rfl⟩ }, rfl, rfl,
    fun t call => ?_⟩
  simp only [handlerReturned, Option.bind_some, hpositive, Bool.false_eq_true, if_false]
  rw [dif_pos hbudget]

theorem selectionArrived_of_match {job : Offered cfg} {selection : Selection}
    (hmatched : matchSelection cfg job.payload.customerPubkey event = some selection)
    (hagrees : selection.Agrees cfg job.payload job.amountSats) (draws : Draws) :
    ∃ selected : Selected cfg, selected.toOffered = job ∧ selected.selection = selection ∧
      ∀ t call, selectionArrived t call job event draws =
        requestHash t call [.selectionAccepted call event selection] selected draws := by
  refine ⟨{ job with selectionEvent := event, selection, matched := hmatched, agrees := hagrees },
    rfl, rfl, fun t call => ?_⟩
  unfold selectionArrived
  split
  next hnone => cases hnone.symm.trans hmatched
  next selection' hmatched' =>
    obtain rfl := Option.some.inj (hmatched.symm.trans hmatched')
    rw [dif_pos hagrees]

theorem hashArrived_of_parsed {job : Selected cfg} {ephemeral : Keypair N} {hash : String}
    (hparsed : parseHashResponseEvent N cfg.text event ephemeral.secretKey
      job.payload.oraclePubkey = some { queryId := job.payload.queryId, hash := hash }) :
    hashArrived t call job ephemeral event =
      hashReady t call job ⟨hash, .dm event ephemeral.secretKey, hparsed⟩ := by
  have hmatched : matchHash cfg job.payload ephemeral.secretKey event =
      some ⟨hash, .dm event ephemeral.secretKey, hparsed⟩ := by
    unfold matchHash
    split
    next hnone => cases hnone.symm.trans hparsed
    next parsed hparsed' =>
      obtain rfl := Option.some.inj (hparsed.symm.trans hparsed')
      exact dif_pos rfl
  rw [hashArrived, hmatched]

/-- A job that everyone serves redeems the token of its selection. -/
theorem redeems_of_serve {h : Helpers} {job : Job cfg} {selection : Selection} {preimage : String}
    (hs : h.Serve job selection preimage) (hstore : cfg.stateStore = true)
    (hschema : cfg.isSchemaUri job.payload.schema = true) (hgenerators : cfg.proofGenerators = []) :
    ∃ tr s, Run (providerService cfg).machine AnyStep (initialState cfg .empty) tr s ∧
      tr.filterMap Event.redemption = [(selection.providerRedemptionToken, preimage)] := by
  obtain ⟨request, hbegin⟩ := handleJob_of_job job hschema hgenerators {} 0
  have hjob := CallService.Gets.begin (S := providerService cfg) (G := AnyStep)
    (s := initialState cfg .empty) trivial hbegin
  have hany : ∀ (b : Answer × Draws) (s : CallState Tables (Pending cfg)),
      AnyStep s (CallAction.resume (α := Protocol.Event) 0 b) := fun _ _ => trivial
  obtain ⟨offered, rfl, hamount, hoffer⟩ :=
    handlerReturned_of_offer hs.positive hs.withinBudget h.draws
  have hoffering := hjob.resume (hany (.offered (some ⟨some h.amountSats⟩), h.draws))
    (congrArg some (hoffer {} 0))
  have hwriting := hoffering.resume (hany (.published ["relay"], h.draws))
    (congrArg some (if_pos hstore))
  have hwaiting := hwriting.resume (hany (.resolved, h.draws)) rfl
  obtain ⟨selected, rfl, rfl, hselected⟩ :=
    selectionArrived_of_match hs.selected (hamount ▸ hs.agrees) h.draws
  obtain ⟨dm, hdm⟩ := hs.asked
  have hrequest : ∀ t, requestHash t 0 [.selectionAccepted 0 h.selectionEvent selected.selection]
      selected h.draws =
        { shared := t
          events := [.selectionAccepted 0 h.selectionEvent selected.selection,
            .hashRequestPublished 0 dm]
          pending := some (.publishingHash selected
            ⟨h.draws.ephemeralKey, N.getPublicKey h.draws.ephemeralKey, rfl⟩ none) } := by
    intro t
    rw [requestHash, dif_neg hs.oracle.1, if_neg hs.oracle.2]
    dsimp only
    rw [hdm]
    rfl
  have hasking := hwaiting.resume (hany (.relayEvent h.selectionEvent, h.draws))
    (congrArg some ((hselected _ 0).trans (hrequest _)))
  obtain ⟨hash, hparsed⟩ := hs.hash
  have hverifying := (hasking.resume (hany (.published ["relay"], h.draws)) rfl).resume
    (hany (.relayEvent h.hashEvent, h.draws)) (congrArg some (hashArrived_of_parsed hparsed))
  have hproducing := hverifying.resume (hany (.resolved, h.draws)) rfl
  obtain ⟨responseEvent, hresult⟩ := hs.result
  have hproduced : ∀ t (locked : Locked cfg), locked.toSelected = selected →
      produceReturned t 0 locked h.data h.proof h.draws =
        { shared := t
          events := [.produceResolved 0 h.data h.proof, .resultPublished 0 responseEvent]
          pending := some (.publishingResult { locked with responseEvent }) } := by
    rintro t locked rfl
    rw [produceReturned, hresult]
  have hanswering := hproducing.resume (hany (.produced h.data h.proof, h.draws))
    (congrArg some (hproduced _ _ rfl))
  have hwritten := (hanswering.resume (hany (.published ["relay"], h.draws))
    (congrArg some (if_pos hstore))).resume (hany (.resolved, h.draws)) rfl
  have hpreimage : ∀ t (answered : Answered cfg), answered.toSelected = selected →
      preimageArrived t 0 answered h.preimageEvent =
        { shared := t
          events := [.preimageReceived 0 h.preimageEvent preimage, .redeemCalled 0
            ⟨selected.selection.providerRedemptionToken, preimage, cfg.identity.secretKey⟩]
          pending := some (.redeeming answered) } := by
    rintro t answered rfl
    rw [preimageArrived, hs.preimage]
  obtain ⟨s, hrun, -⟩ := hwritten.resume (hany (.relayEvent h.preimageEvent, h.draws))
    (congrArg some (hpreimage _ _ rfl))
  exact ⟨_, s, hrun, rfl⟩

end

/-! ## One such job -/

/-- A Provider with one Oracle and a state store. -/
def plainContext : JobContext Oracle.plainNostr where
  text := .safeIntegers
  identity := Oracle.plainKeypair "pk"
  oracles := ["oracle"]
  mintUrl := "https://m.test"
  stateStore := true
  isSchemaUri uri := uri = "https://anchr-spec.org/spec/proof/tlsn/v1"

def requestPayload : QueryRequestPayload where
  queryId := "q"
  schema := "https://anchr-spec.org/spec/proof/tlsn/v1"
  customerPubkey := "customer"
  oraclePubkey := "oracle"
  maxAmountSats := .ofInt 100
  expiresAt := .ofInt 600000

def requestEvent : Protocol.Event :=
  { buildQueryRequestEvent Oracle.plainNostr .safeIntegers id (Oracle.plainKeypair "customer")
      requestPayload none (.ofInt 1000) with id := "r" }

/-- The Customer selects the offer of 21 sats, and encloses the token `t`. -/
def plainSelection : Selection where
  providerRedemptionToken := "t"
  execution :=
    { schema := requestPayload.schema
      predicate := .null
      description := none
      context := none
      mintUrl := "https://m.test"
      maxAmountSats := .ofInt 100
      amountSats := .ofInt 21
      locktimeSeconds := .ofInt 5000 }

def plainDraws : Draws where
  m := Oracle.plainMoment
  oracleNonce := "nonce"
  ephemeralKey := "ephemeral"
  clockNow := .ofInt 1000

theorem parse_requestEvent :
    parseQueryRequestEvent plainContext.text requestEvent = some requestPayload := by
  have hread : ReadAs _ (parseQueryRequestEvent .safeIntegers (buildQueryRequestEvent
      Oracle.plainNostr .safeIntegers id (Oracle.plainKeypair "customer") requestPayload none
      (.ofInt 1000))) requestPayload :=
    readAs_request safeIntegers_zero ⟨rfl, by decide⟩ ⟨rfl, by decide⟩
  exact hread.payload

def plainJob : Job plainContext := ⟨requestEvent, requestPayload, parse_requestEvent, by decide⟩

theorem offer_positive : (JsNumber.ofInt 21).le (.ofInt 0) = false := by decide

theorem offer_withinBudget : plainJob.payload.maxAmountSats.lt (.ofInt 21) = false := by decide

theorem exists_selection :
    ∃ event, matchSelection plainContext "customer" event = some plainSelection := by
  have hvalid : plainSelection.execution.Valid .safeIntegers :=
    ⟨trivial, nofun, ⟨rfl, by decide⟩, ⟨rfl, by decide⟩, ⟨rfl, by decide⟩⟩
  obtain ⟨event, hbuilt⟩ : ∃ event, buildSelectionFeedbackEvent Oracle.plainNostr
      .safeIntegers (Oracle.plainKeypair "customer") "r"
      ⟨(Oracle.plainKeypair "pk").publicKey, "t", plainSelection.execution.inMemory⟩
      Oracle.plainMoment = some event := Option.isSome_iff_exists.mp (by decide)
  have hparsed :=
    (readAs_selection Oracle.plainNostr_lawful safeIntegers_zero hvalid hbuilt).payload
  have htag : ¬findTagValue event "p" ≠ some plainContext.identity.publicKey :=
    not_not.mpr (findTagValue_selection hbuilt)
  exact ⟨event, (if_neg htag).trans (congrArg (Option.map _) hparsed)⟩

theorem serve_plainJob : ∃ h : Helpers, h.Serve plainJob plainSelection "p" := by
  obtain ⟨selectionEvent, hselection⟩ := exists_selection
  obtain ⟨hashEvent, hbuilt⟩ : ∃ event, DirectMessage.build Oracle.plainNostr .safeIntegers
      (Oracle.plainKeypair "oracle") (Oracle.plainKeypair "ephemeral").publicKey Oracle.plainMoment
      (.hashResponse ⟨"q", "hash of p"⟩) = some event := ⟨_, rfl⟩
  have hhash := (parse_directMessage Oracle.plainNostr_lawful safeIntegers_zero hbuilt).2.2
  obtain ⟨preimageEvent, hdelivered⟩ : ∃ event, buildPreimageDeliveryEvent Oracle.plainNostr
      .safeIntegers (Oracle.plainKeypair "oracle") (Oracle.plainKeypair "pk").publicKey
      ⟨"q", "r", "p"⟩ Oracle.plainMoment = some event := ⟨_, rfl⟩
  have hpreimage := Oracle.matchPreimage_buildPreimageDeliveryEvent Oracle.plainNostr_lawful
    safeIntegers_zero hdelivered
  have hagrees : plainSelection.Agrees plainContext requestPayload (.ofInt 21) := by decide
  exact ⟨⟨.ofInt 21, selectionEvent, "hash of p", hashEvent, some .null, .text "proof",
    preimageEvent, plainDraws⟩, offer_positive, offer_withinBudget, hselection, hagrees,
    ⟨by decide, by decide⟩, ⟨_, rfl⟩, ⟨_, hhash⟩, ⟨_, rfl⟩, hpreimage⟩

end Anchr.Provider
