import Anchr.Protocol.SelectionRoundtrip
import Mathlib.Data.String.Basic

/-!
# Building and parsing events

Parsing a built event gives back what was put in, and no event of kind 4 or 7000 is taken for another
format of its kind.
-/

namespace Anchr.Protocol

open Infra

/-- Ciphertext and the text of an object are never taken for each other. -/
structure NostrTools.Sealed (N : NostrTools) (T : NumberText) : Prop extends N.Lawful where
  decrypt_plaintext : ∀ text value key, parseObject T text = some value →
    N.nip44Decrypt text key = none
  parse_ciphertext : ∀ content key nonce ciphertext,
    N.nip44Encrypt content key nonce = some ciphertext → parseObject T ciphertext = none
  ciphertext_ne : ∀ content key nonce ciphertext,
    N.nip44Encrypt content key nonce = some ciphertext → ciphertext ≠ ""

/-- The parser gives the payload, out of an object at the version of the format. -/
structure ReadAs {α : Type} (object : Option Json) (parsed : Option α) (payload : α) : Prop where
  payload : parsed = some payload
  version : ∃ value, object = some value ∧ hasVersion value payloadVersion = true

def IsDouble (T : NumberText) (n : JsNumber) : Prop := (Json.num n).Doubles T

variable (N : NostrTools) (T : NumberText)

def sealedObject (ciphertext secretKey senderPubkey : String) : Option Json :=
  (decryptNip44 N ciphertext secretKey senderPubkey).bind (parseObject T)

/-! ## Payloads -/

/-- The numbers are finite, and the free-form members are JSON. -/
structure SelectionExecutionPayload.Valid (execution : SelectionExecutionPayload) : Prop where
  predicate : execution.predicate.Doubles T
  context : ∀ context, execution.context = some context →
    context.isObject = true ∧ context.Doubles T
  maxAmountSats : IsDouble T execution.maxAmountSats
  amountSats : IsDouble T execution.amountSats
  locktimeSeconds : IsDouble T execution.locktimeSeconds

def SelectionExecutionPayload.inMemory (execution : SelectionExecutionPayload) :
    SelectionExecution where
  schema := execution.schema
  predicate := .ofJson execution.predicate
  description := execution.description
  context := (execution.context.map JsValue.ofJson).getD .undefined
  mintUrl := execution.mintUrl
  maxAmountSats := execution.maxAmountSats
  amountSats := execution.amountSats
  locktimeSeconds := execution.locktimeSeconds

/-- The three formats of kind 4. -/
inductive DirectMessage where
  | preimageDelivery (payload : PreimageDeliveryPayload)
  | hashRequest (payload : HashRequestPayload)
  | hashResponse (payload : HashResponsePayload)

namespace DirectMessage

/-- The builder of each format of kind 4. -/
def build (identity : Keypair N) (recipientPubkey : String) (m : Moment) :
    DirectMessage → Option Event
  | .preimageDelivery payload => buildPreimageDeliveryEvent N T identity recipientPubkey payload m
  | .hashRequest payload => buildHashRequestEvent N T identity recipientPubkey payload m
  | .hashResponse payload => buildHashResponseEvent N T identity recipientPubkey payload m

def preimageDelivery? : DirectMessage → Option PreimageDeliveryPayload
  | .preimageDelivery payload => some payload
  | _ => none

def hashRequest? : DirectMessage → Option HashRequestPayload
  | .hashRequest payload => some payload
  | _ => none

def hashResponse? : DirectMessage → Option HashResponsePayload
  | .hashResponse payload => some payload
  | _ => none

def members : DirectMessage → List (String × Json)
  | .preimageDelivery payload =>
    [("query_id", .str payload.queryId), ("request_event_id", .str payload.requestEventId),
      ("preimage", .str payload.preimage), ("version", .num payloadVersion)]
  | .hashRequest payload =>
    [("type", .str "hash_request"), ("query_id", .str payload.queryId),
      ("version", .num payloadVersion)]
  | .hashResponse payload =>
    [("type", .str "hash_response"), ("query_id", .str payload.queryId),
      ("hash", .str payload.hash), ("version", .num payloadVersion)]

end DirectMessage

/-! ## The formats -/

/-- Every format is read back, and the formats of one kind are told apart. -/
structure WireCodec : Prop where
  request : ∀ toUpperCase (identity : Keypair N) payload regionCode nowMs event,
    IsDouble T payload.maxAmountSats → IsDouble T payload.expiresAt →
    buildQueryRequestEvent N T toUpperCase identity payload regionCode nowMs = event →
    ReadAs (parseObject T event.content) (parseQueryRequestEvent T event) payload
  /-- No key makes a selection of an offer. -/
  offer : ∀ (identity : Keypair N) requestEventId customerPubkey amountSats m event,
    requestEventId ≠ "" → customerPubkey ≠ "" → IsDouble T amountSats →
    buildOfferFeedbackEvent N T identity requestEventId customerPubkey identity.publicKey
      amountSats m = event →
    ReadAs (parseObject T event.content) (parseOfferFeedbackEvent T event)
        ⟨identity.publicKey, amountSats, requestEventId, customerPubkey⟩ ∧
      ∀ secretKey senderPubkey,
        parseSelectionFeedbackEvent N T event secretKey senderPubkey = none
  selection : ∀ (identity provider : Keypair N) requestEventId providerRedemptionToken
    (execution : SelectionExecutionPayload) m event, execution.Valid T →
    buildSelectionFeedbackEvent N T identity requestEventId
      ⟨provider.publicKey, providerRedemptionToken, execution.inMemory⟩ m = some event →
    ReadAs (sealedObject N T event.content provider.secretKey identity.publicKey)
        (parseSelectionFeedbackEvent N T event provider.secretKey identity.publicKey)
        ⟨provider.publicKey, providerRedemptionToken, execution⟩ ∧
      parseOfferFeedbackEvent T event = none
  result : ∀ (identity customer : Keypair N) requestEventId schema data proof oraclePubkey queryId
    m oracleNonce event, data.Doubles T →
    buildQueryResponseEvent N T identity requestEventId customer.publicKey schema (some data) proof
      oraclePubkey queryId m oracleNonce = some event →
    ReadAs (sealedObject N T event.content customer.secretKey identity.publicKey)
      (parseQueryResponseEvent N T event customer.secretKey identity.publicKey)
      ⟨schema, data, proof.forJson⟩
  oracleResult : ∀ (identity oracle : Keypair N) requestEventId customerPubkey schema data proof
    queryId m oracleNonce event, data.Doubles T →
    buildQueryResponseEvent N T identity requestEventId customerPubkey schema (some data) proof
      (some oracle.publicKey) queryId m oracleNonce = some event →
    ReadAs ((findFilledTag event.tags "oracle_payload").bind fun ciphertext =>
        sealedObject N T ciphertext oracle.secretKey identity.publicKey)
      (parseOracleQueryResponseEvent N T event oracle.secretKey identity.publicKey)
      ⟨schema, queryId.getD requestEventId, requestEventId, data, proof.forJson⟩
  /-- Each parser returns the payload of a message of its own format, and `null` for the others. -/
  directMessage : ∀ (identity recipient : Keypair N) (message : DirectMessage) m event,
    message.build N T identity recipient.publicKey m = some event →
    parsePreimageDeliveryEvent N T event recipient.secretKey identity.publicKey =
        message.preimageDelivery? ∧
      parseHashRequestEvent N T event recipient.secretKey identity.publicKey =
        message.hashRequest? ∧
      parseHashResponseEvent N T event recipient.secretKey identity.publicKey =
        message.hashResponse? ∧
      ∃ value, sealedObject N T event.content recipient.secretKey identity.publicKey = some value ∧
        hasVersion value payloadVersion = true

variable {N T}

/-! ## Objects in events -/

theorem hasVersion_of_get {value : Json} (h : value.get? "version" = some (.num payloadVersion)) :
    hasVersion value payloadVersion = true := by
  simp [hasVersion, Json.hasNumber, h, payloadVersion, JsNumber.ofInt]

variable {members : List (String × Json)} {nonce customerPubkey : String}
  {oraclePubkey : Option String}

theorem parseObject_stringify (h : (Json.obj members).Doubles T) :
    parseObject T ((Json.obj members).stringify T) = some (.obj members) := by
  rw [parseObject, Json.parse_stringify h]
  rfl

variable {recipient identity : Keypair N} {event : Event} {execution : SelectionExecutionPayload}
  {requestEventId schema oracleNonce : String} {m : Moment} {proof : ProofEvidence} {data : Json}
  {queryId : Option String} {message : DirectMessage}

theorem sealedObject_encryptNip44 (hN : N.Lawful) {sender : Keypair N} {ciphertext : String}
    (hdoubles : (Json.obj members).Doubles T)
    (h : encryptNip44 N ((Json.obj members).stringify T) sender.secretKey recipient.publicKey
      nonce = some ciphertext) :
    sealedObject N T ciphertext recipient.secretKey sender.publicKey = some (.obj members) := by
  rw [sealedObject, decryptNip44_encryptNip44 hN h, Option.bind_some,
    parseObject_stringify hdoubles]

theorem doubles_version (hzero : T.double 0) : (Json.num payloadVersion).Doubles T := by
  simpa [Json.Doubles, payloadVersion, JsNumber.ofInt] using hzero

/-! ## Plain formats -/

section

variable (hzero : T.double 0)

include hzero

variable {identity : Keypair N} {amountSats : JsNumber}

theorem readAs_request {toUpperCase : String → String} {payload : QueryRequestPayload}
    {regionCode : Option String} {nowMs : JsNumber} (hmax : IsDouble T payload.maxAmountSats)
    (hexpires : IsDouble T payload.expiresAt) :
    ReadAs
      (parseObject T
        (buildQueryRequestEvent N T toUpperCase identity payload regionCode nowMs).content)
      (parseQueryRequestEvent T
        (buildQueryRequestEvent N T toUpperCase identity payload regionCode nowMs)) payload := by
  have hdoubles : (Json.obj (queryRequestMembers payload ++
      [("version", .num payloadVersion)])).Doubles T := by
    refine ⟨trivial, trivial, trivial, trivial, hmax, hexpires, doubles_version hzero, trivial⟩
  have hobject : parseObject T
      (buildQueryRequestEvent N T toUpperCase identity payload regionCode nowMs).content = some _ :=
    parseObject_stringifyPayload hdoubles
  constructor
  · rw [parseQueryRequestEvent, hobject]
    simp [buildQueryRequestEvent, signEvent, queryRequestMembers, providerOnlyFields, hasVersion,
      Json.hasNumber, Json.string?, Json.number?, Json.get?, Json.asString?, payloadVersion,
      JsNumber.ofInt]
  · exact ⟨_, hobject, hasVersion_of_get rfl⟩

theorem parseObject_offer (identity : Keypair N)
    (requestEventId customerPubkey providerPubkey : String) (m : Moment)
    (hamount : IsDouble T amountSats) :
    parseObject T (buildOfferFeedbackEvent N T identity requestEventId customerPubkey
      providerPubkey amountSats m).content =
      some (.obj [("status", .str "payment-required"), ("provider_pubkey", .str providerPubkey),
        ("amount_sats", .num amountSats), ("version", .num payloadVersion)]) :=
  parseObject_stringifyPayload
    (show Json.Doubles T (.obj _) from
      ⟨trivial, trivial, hamount, doubles_version hzero, trivial⟩)

variable {customerPubkey : String}

theorem readAs_offer {requestEventId : String} {m : Moment} (hrequest : requestEventId ≠ "")
    (hcustomer : customerPubkey ≠ "") (hamount : IsDouble T amountSats) :
    ReadAs
      (parseObject T (buildOfferFeedbackEvent N T identity requestEventId customerPubkey
        identity.publicKey amountSats m).content)
      (parseOfferFeedbackEvent T (buildOfferFeedbackEvent N T identity requestEventId
        customerPubkey identity.publicKey amountSats m))
      ⟨identity.publicKey, amountSats, requestEventId, customerPubkey⟩ := by
  have hobject := parseObject_offer hzero identity requestEventId customerPubkey
    identity.publicKey m hamount
  constructor
  · rw [parseOfferFeedbackEvent, hobject]
    simp [buildOfferFeedbackEvent, signEvent, hasVersion, Json.hasNumber, Json.string?,
      Json.number?, Json.get?, Json.asString?, payloadVersion, JsNumber.ofInt, identity.derived,
      findFilledTag, hrequest, hcustomer]
  · exact ⟨_, hobject, hasVersion_of_get rfl⟩

/-- The content of an offer is no NIP-44 payload. -/
theorem parseSelectionFeedbackEvent_offer (hN : N.Sealed T)
    {requestEventId providerPubkey : String} {m : Moment} (hamount : IsDouble T amountSats)
    (secretKey senderPubkey : String) :
    parseSelectionFeedbackEvent N T (buildOfferFeedbackEvent N T identity requestEventId
      customerPubkey providerPubkey amountSats m) secretKey senderPubkey = none := by
  have hobject := parseObject_offer hzero identity requestEventId customerPubkey providerPubkey m
    hamount
  have hdecrypt : decryptNip44 N (buildOfferFeedbackEvent N T identity requestEventId
      customerPubkey providerPubkey amountSats m).content secretKey senderPubkey = none := by
    unfold decryptNip44
    cases N.getConversationKey secretKey senderPubkey with
    | none => rfl
    | some key => exact hN.decrypt_plaintext _ _ key hobject
  rw [parseSelectionFeedbackEvent, hdecrypt]
  split <;> rfl

end

/-! ## Encrypted formats -/

theorem parseOfferFeedbackEvent_encrypted (hN : N.Sealed T) {content secretKey pubkey : String}
    (h : encryptNip44 N content secretKey pubkey nonce = some event.content) :
    parseOfferFeedbackEvent T event = none := by
  obtain ⟨key, -, hencrypted⟩ := Option.bind_eq_some_iff.mp h
  rw [parseOfferFeedbackEvent, hN.parse_ciphertext _ _ _ _ hencrypted]
  split <;> rfl

theorem received_inMemory (h : execution.Valid T) :
    execution.inMemory.received execution.predicate = execution := by
  have hpredicate : execution.predicate.readBack = execution.predicate :=
    Json.readBack_of_doubles h.predicate
  have hcontext : ((execution.inMemory.context.written.value?).map Json.readBack).filter
      Json.isObject = execution.context := by
    cases hsome : execution.context with
    | none =>
      simp only [SelectionExecutionPayload.inMemory, hsome]
      rfl
    | some context =>
      obtain ⟨hobject, hdoubles⟩ := h.context context hsome
      simp [SelectionExecutionPayload.inMemory, hsome, Written.value?, hobject,
        Json.readBack_of_doubles hdoubles]
  simp only [SelectionExecution.received, hpredicate, hcontext]
  rfl

theorem numbers_selectionJson (hzero : T.double 0) (h : execution.Valid T)
    (providerPubkey token : String) :
    (selectionJson ⟨providerPubkey, token, execution.inMemory⟩).Numbers T := by
  have hexecution : (executionJson execution.inMemory).Numbers T := by
    show Json.NumbersMembers T _
    rw [Json.numbersMembers_iff]
    intro member hmember
    simp only [optionalMember, SelectionExecutionPayload.inMemory, JsValue.written_ofJson,
      List.mem_append, List.mem_cons, List.not_mem_nil, or_false, Option.mem_toList,
      Option.map_eq_some_iff] at hmember
    rcases hmember with (((rfl | ⟨predicate, hpredicate, rfl⟩) | ⟨_, ⟨s, -, rfl⟩, rfl⟩) |
      ⟨context, hcontext, rfl⟩) | rfl | rfl | rfl | rfl
    · trivial
    · obtain rfl : execution.predicate = predicate := by simpa [Written.value?] using hpredicate
      exact Json.numbers_of_doubles h.predicate
    · trivial
    · cases hsome : execution.context with
      | none =>
        rw [hsome] at hcontext
        cases hcontext
      | some value =>
        obtain rfl : value = context := by simpa [hsome, Written.value?] using hcontext
        exact Json.numbers_of_doubles (h.context value hsome).2
    · trivial
    · exact Json.numbers_of_doubles h.maxAmountSats
    · exact Json.numbers_of_doubles h.amountSats
    · exact Json.numbers_of_doubles h.locktimeSeconds
  exact ⟨trivial, trivial, trivial, hexecution,
    Json.numbers_of_doubles (doubles_version hzero), trivial⟩

theorem isFinite_of_isDouble {n : JsNumber} (h : IsDouble T n) : n.isFinite = true := by
  cases n with
  | fin q => rfl
  | _ => cases h

theorem findTagValue_selection {payload : SelectionContent}
    (h : buildSelectionFeedbackEvent N T identity requestEventId payload m = some event) :
    findTagValue event "p" = some payload.selectedProviderPubkey := by
  obtain ⟨plaintext, -, hevent⟩ := Option.bind_eq_some_iff.mp h
  obtain ⟨ciphertext, -, rfl⟩ := Option.map_eq_some_iff.mp hevent
  rfl

theorem readAs_selection (hN : N.Lawful) (hzero : T.double 0) {provider : Keypair N}
    {token : String} (hvalid : execution.Valid T)
    (h : buildSelectionFeedbackEvent N T identity requestEventId
      ⟨provider.publicKey, token, execution.inMemory⟩ m = some event) :
    ReadAs (sealedObject N T event.content provider.secretKey identity.publicKey)
      (parseSelectionFeedbackEvent N T event provider.secretKey identity.publicKey)
      ⟨provider.publicKey, token, execution⟩ := by
  have hnumbers := numbers_selectionJson hzero hvalid provider.publicKey token
  have hfinite : execution.inMemory.Finite :=
    ⟨isFinite_of_isDouble hvalid.maxAmountSats, isFinite_of_isDouble hvalid.amountSats,
      isFinite_of_isDouble hvalid.locktimeSeconds⟩
  constructor
  · rw [parseSelectionFeedbackEvent_build hN rfl hfinite hnumbers h]
    simp only [SelectionExecutionPayload.inMemory, JsValue.written_ofJson, Written.value?,
      Option.map_some]
    rw [← SelectionExecutionPayload.inMemory, received_inMemory hvalid]
  · obtain ⟨plaintext, hplaintext, hevent⟩ := Option.bind_eq_some_iff.mp h
    obtain ⟨-, -, rfl⟩ := stringifyJsPayload_some hplaintext
    obtain ⟨ciphertext, hciphertext, rfl⟩ := Option.map_eq_some_iff.mp hevent
    refine ⟨(selectionJson ⟨provider.publicKey, token, execution.inMemory⟩).readBack, ?_,
      hasVersion_of_get rfl⟩
    rw [sealedObject]
    simp only [signEvent, decryptNip44_encryptNip44 hN hciphertext, Option.bind_some, parseObject,
      Json.parse_stringify_readBack hnumbers]
    rfl

theorem doubles_resultMembers (hzero : T.double 0) (hdata : data.Doubles T) :
    (Json.obj (resultMembers schema (some data) proof)).Doubles T :=
  ⟨doubles_version hzero, trivial, hdata, trivial, trivial⟩

theorem buildQueryResponseEvent_some {data : Option Json}
    (h : buildQueryResponseEvent N T identity requestEventId customerPubkey schema data proof
      oraclePubkey queryId m oracleNonce = some event) :
    encryptNip44 N ((Json.obj (resultMembers schema data proof)).stringify T) identity.secretKey
        customerPubkey m.nonce = some event.content ∧
      event.kind = kindQueryResponse ∧
      ∃ tags, oracleTags N T identity requestEventId schema data proof oraclePubkey queryId
          oracleNonce = some tags ∧
        event.tags = [["e", requestEventId, "", "request"], ["p", customerPubkey]] ++ tags := by
  simp only [buildQueryResponseEvent, Option.bind_eq_bind, Option.pure_def,
    Option.bind_eq_some_iff] at h
  obtain ⟨ciphertext, hciphertext, tags, htags, hevent⟩ := h
  cases hevent
  exact ⟨hciphertext, rfl, tags, htags, rfl⟩

theorem readAs_result (hN : N.Lawful) (hzero : T.double 0) {customer : Keypair N}
    (hdata : data.Doubles T)
    (h : buildQueryResponseEvent N T identity requestEventId customer.publicKey schema (some data)
      proof oraclePubkey queryId m oracleNonce = some event) :
    ReadAs (sealedObject N T event.content customer.secretKey identity.publicKey)
      (parseQueryResponseEvent N T event customer.secretKey identity.publicKey)
      ⟨schema, data, proof.forJson⟩ := by
  obtain ⟨hciphertext, hkind, -⟩ := buildQueryResponseEvent_some h
  have hdoubles : (Json.obj (resultMembers schema (some data) proof)).Doubles T :=
    doubles_resultMembers hzero hdata
  have hobject := sealedObject_encryptNip44 hN hdoubles hciphertext
  constructor
  · rw [parseQueryResponseEvent, if_neg (by simp [hkind])]
    rw [sealedObject] at hobject
    obtain ⟨plaintext, hplaintext, hparsed⟩ := Option.bind_eq_some_iff.mp hobject
    simp [hplaintext, hparsed, resultMembers, optionalMember, hasVersion, Json.hasNumber,
      Json.string?, Json.get?, Json.asString?, payloadVersion, JsNumber.ofInt]
  · exact ⟨_, hobject, hasVersion_of_get rfl⟩

theorem readAs_oracleResult (hN : N.Sealed T) (hzero : T.double 0) {oracle : Keypair N}
    (hdata : data.Doubles T)
    (h : buildQueryResponseEvent N T identity requestEventId customerPubkey schema (some data) proof
      (some oracle.publicKey) queryId m oracleNonce = some event) :
    ReadAs ((findFilledTag event.tags "oracle_payload").bind fun ciphertext =>
        sealedObject N T ciphertext oracle.secretKey identity.publicKey)
      (parseOracleQueryResponseEvent N T event oracle.secretKey identity.publicKey)
      ⟨schema, queryId.getD requestEventId, requestEventId, data, proof.forJson⟩ := by
  obtain ⟨-, hkind, tags, htags, hevent⟩ := buildQueryResponseEvent_some h
  obtain ⟨ciphertext, hciphertext, rfl⟩ := Option.map_eq_some_iff.mp htags
  have hdoubles : (Json.obj (resultMembers schema (some data) proof ++
      [("query_id", .str (queryId.getD requestEventId)),
        ("request_event_id", .str requestEventId)])).Doubles T :=
    ⟨doubles_version hzero, trivial, hdata, trivial, trivial, trivial, trivial⟩
  have hobject := sealedObject_encryptNip44 hN.toLawful hdoubles hciphertext
  have htag : findFilledTag event.tags "oracle_payload" = some ciphertext := by
    obtain ⟨key, -, hencrypted⟩ := Option.bind_eq_some_iff.mp hciphertext
    have hne : ciphertext ≠ "" := hN.ciphertext_ne _ _ _ _ hencrypted
    rw [hevent]
    simp [findFilledTag, hne]
  constructor
  · rw [parseOracleQueryResponseEvent, if_neg (by simp [hkind]), htag]
    rw [sealedObject] at hobject
    obtain ⟨plaintext, hplaintext, hparsed⟩ := Option.bind_eq_some_iff.mp hobject
    simp [hplaintext, hparsed, resultMembers, optionalMember, hasVersion, Json.hasNumber,
      Json.string?, Json.get?, Json.asString?, payloadVersion, JsNumber.ofInt]
  · rw [htag, Option.bind_some]
    exact ⟨_, hobject, hasVersion_of_get rfl⟩

/-! ## Direct messages -/

theorem doubles_members (hzero : T.double 0) (message : DirectMessage) :
    (Json.obj message.members).Doubles T := by
  cases message with
  | preimageDelivery payload => exact ⟨trivial, trivial, trivial, doubles_version hzero, trivial⟩
  | hashRequest payload => exact ⟨trivial, trivial, doubles_version hzero, trivial⟩
  | hashResponse payload => exact ⟨trivial, trivial, trivial, doubles_version hzero, trivial⟩

theorem build_eq (identity : Keypair N) (recipientPubkey : String) (m : Moment)
    (message : DirectMessage) :
    message.build N T identity recipientPubkey m =
      encryptedDm N identity recipientPubkey ((Json.obj message.members).stringify T) m := by
  cases message <;> rfl

theorem decryptDmJson_build (hN : N.Lawful) (hzero : T.double 0)
    (h : message.build N T identity recipient.publicKey m = some event) :
    decryptDmJson N T event recipient.secretKey identity.publicKey =
      some (.obj message.members) := by
  rw [build_eq] at h
  exact decryptDmJson_encryptedDm hN (doubles_members hzero message) rfl h

theorem parse_directMessage (hN : N.Lawful) (hzero : T.double 0)
    (h : message.build N T identity recipient.publicKey m = some event) :
    parsePreimageDeliveryEvent N T event recipient.secretKey identity.publicKey =
        message.preimageDelivery? ∧
      parseHashRequestEvent N T event recipient.secretKey identity.publicKey =
        message.hashRequest? ∧
      parseHashResponseEvent N T event recipient.secretKey identity.publicKey =
        message.hashResponse? := by
  have hobject := decryptDmJson_build hN hzero h
  rw [parsePreimageDeliveryEvent, parseHashRequestEvent, parseHashResponseEvent, hobject]
  cases message <;>
    simp [DirectMessage.members, DirectMessage.preimageDelivery?, DirectMessage.hashRequest?,
      DirectMessage.hashResponse?, hasVersion, Json.hasNumber, Json.string?, Json.get?,
      Json.asString?, payloadVersion, JsNumber.ofInt]

theorem sealedObject_build (hN : N.Lawful) (hzero : T.double 0)
    (h : message.build N T identity recipient.publicKey m = some event) :
    ∃ value, sealedObject N T event.content recipient.secretKey identity.publicKey = some value ∧
      hasVersion value payloadVersion = true := by
  rw [build_eq] at h
  obtain ⟨ciphertext, hciphertext, rfl⟩ := Option.map_eq_some_iff.mp h
  refine ⟨_, sealedObject_encryptNip44 hN (doubles_members hzero message) hciphertext, ?_⟩
  cases message <;> exact hasVersion_of_get rfl

/-! ## All formats -/

/-- **What is built is read back, and never as another format of its kind.** -/
theorem wire_codec (hN : N.Sealed T) (hzero : T.double 0) : WireCodec N T where
  request toUpperCase identity payload regionCode nowMs event hmax hexpires hevent := by
    subst hevent
    exact readAs_request hzero hmax hexpires
  offer identity requestEventId customerPubkey amountSats m event hrequest hcustomer hamount
      hevent := by
    subst hevent
    exact ⟨readAs_offer hzero hrequest hcustomer hamount,
      parseSelectionFeedbackEvent_offer hzero hN hamount⟩
  selection identity provider requestEventId token execution m event hvalid h := by
    refine ⟨readAs_selection hN.toLawful hzero hvalid h, ?_⟩
    obtain ⟨plaintext, -, hevent⟩ := Option.bind_eq_some_iff.mp h
    obtain ⟨ciphertext, hciphertext, rfl⟩ := Option.map_eq_some_iff.mp hevent
    exact parseOfferFeedbackEvent_encrypted hN hciphertext
  result identity customer requestEventId schema data proof oraclePubkey queryId m oracleNonce event
      hdata h :=
    readAs_result hN.toLawful hzero hdata h
  oracleResult identity oracle requestEventId customerPubkey schema data proof queryId m oracleNonce
      event hdata h :=
    readAs_oracleResult hN hzero hdata h
  directMessage identity recipient message m event h := by
    obtain ⟨hpreimage, hrequest, hresponse⟩ := parse_directMessage hN.toLawful hzero h
    exact ⟨hpreimage, hrequest, hresponse, sealedObject_build hN.toLawful hzero h⟩

/-! ## A conversation -/

/-- Keys that are their own public keys. A payload starts with a character that no JSON text starts
with, and names the conversation it belongs to. -/
def sealedNostr : NostrTools where
  getPublicKey secretKey := secretKey
  getConversationKey secretKey pubkey := some (max secretKey pubkey ++ "/" ++ min secretKey pubkey)
  nip44Encrypt content key _ := some (String.ofList ('~' :: (key.toList ++ content.toList)))
  nip44Decrypt ciphertext key :=
    if ('~' :: key.toList).isPrefixOf ciphertext.toList then
      some (String.ofList (ciphertext.toList.drop (key.toList.length + 1)))
    else none
  getEventHash pubkey template := pubkey ++ template.content

theorem parseObject_tilde (l : List Char) : parseObject T (String.ofList ('~' :: l)) = none := by
  rw [parseObject, Json.parse, String.toList_ofList]
  rfl

theorem sealedNostr_sealed : sealedNostr.Sealed T where
  conversation_symm a b key h := by
    rw [← h]
    show some (max b a ++ "/" ++ min b a) = some (max a b ++ "/" ++ min a b)
    rw [max_comm, min_comm]
  decrypt_encrypt content key nonce ciphertext h := by
    cases h
    simp [sealedNostr]
  decrypt_plaintext text value key h := by
    cases htext : text.toList with
    | nil => simp [sealedNostr, htext]
    | cons c l =>
      have hc : c ≠ '~' := by
        rintro rfl
        rw [← String.ofList_toList (s := text), htext, parseObject_tilde] at h
        cases h
      simp [sealedNostr, htext, Ne.symm hc]
  parse_ciphertext content key nonce ciphertext h := by
    cases h
    exact parseObject_tilde _
  ciphertext_ne content key nonce ciphertext h := by
    cases h
    simp

/-- Messages can be built, and all that is said of them holds. -/
theorem wire_codec_sealed :
    WireCodec sealedNostr .safeIntegers ∧
      ∃ event, DirectMessage.build sealedNostr .safeIntegers ⟨"oracle", "oracle", rfl⟩ "pk"
        { nonce := "nonce", nowMs := .ofInt 1000 } (.hashResponse ⟨"q", "hash"⟩) = some event :=
  ⟨wire_codec sealedNostr_sealed ⟨rfl, by decide⟩, _, rfl⟩

end Anchr.Protocol
