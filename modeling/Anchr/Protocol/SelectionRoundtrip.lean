import Anchr.Protocol.Purchases

/-!
# Selections between the two ends

What becomes of the free-form members of a selection on the way from a Customer's memory to the
selected Provider.
-/

namespace Anchr.Protocol

open Infra

/-! ## Written -/

def executionJson (execution : SelectionExecution) : Json :=
  .obj ([("schema", .str execution.schema)] ++
    optionalMember "predicate" execution.predicate.written.value? ++
    optionalMember "description" (execution.description.map .str) ++
    optionalMember "context" execution.context.written.value? ++
    [("mint_url", .str execution.mintUrl), ("max_amount_sats", .num execution.maxAmountSats),
      ("amount_sats", .num execution.amountSats),
      ("locktime_seconds", .num execution.locktimeSeconds)])

def selectionJson (payload : SelectionContent) : Json :=
  .obj [("status", .str "processing"),
    ("selected_provider_pubkey", .str payload.selectedProviderPubkey),
    ("provider_redemption_token", .str payload.providerRedemptionToken),
    ("execution", executionJson payload.execution), ("version", .num payloadVersion)]

variable {N : NostrTools} {T : NumberText}

theorem written_optionalString (s : Option String) :
    (optionalString s).written.value? = s.map .str ∧ (optionalString s).written ≠ .threw := by
  cases s with
  | none => exact ⟨rfl, fun h => by cases h⟩
  | some s => exact ⟨rfl, fun h => by cases h⟩

variable {execution : SelectionExecution} {payload : SelectionContent} {requestEventId : String}
  {identity provider : Keypair N} {event : Event} {m : Moment}

/-- Nothing in the execution part throws unless a free-form member does. -/
theorem written_toJs (hpredicate : execution.predicate.written ≠ .threw)
    (hcontext : execution.context.written ≠ .threw) :
    execution.toJs.written = .json (executionJson execution) := by
  have hdescription := written_optionalString execution.description
  have hschema : (JsValue.str execution.schema).written ≠ .threw := fun h => by cases h
  rw [SelectionExecution.toJs, JsValue.written, JsValue.writtenMembers_cons hschema,
    JsValue.writtenMembers_cons hpredicate, JsValue.writtenMembers_cons hdescription.2,
    JsValue.writtenMembers_cons hcontext, hdescription.1]
  simp only [JsValue.writtenMembers, JsValue.written, Option.map_some]
  simp only [executionJson, optionalMember, Written.value?, Option.map_some, Option.toList_some,
    List.append_assoc]

theorem stringifyJsPayload_selection (hpredicate : payload.execution.predicate.written ≠ .threw)
    (hcontext : payload.execution.context.written ≠ .threw) :
    stringifyJsPayload T payload.members payloadVersion =
      some ((selectionJson payload).stringify T) := by
  simp only [stringifyJsPayload, SelectionContent.members, List.cons_append, List.nil_append,
    JsValue.writtenMembers, JsValue.written, written_toJs hpredicate hcontext, Option.map_some]
  rfl

theorem written_toJs_threw
    (h : execution.predicate.written = .threw ∨ execution.context.written = .threw) :
    execution.toJs.written = .threw := by
  have hdescription := written_optionalString execution.description
  have hschema : (JsValue.str execution.schema).written ≠ .threw := fun h => by cases h
  rw [SelectionExecution.toJs, JsValue.written, JsValue.writtenMembers_cons hschema]
  by_cases hpredicate : execution.predicate.written = .threw
  · simp only [JsValue.writtenMembers, hpredicate, Option.map_none]
  · have hcontext := h.resolve_left hpredicate
    rw [JsValue.writtenMembers_cons hpredicate, JsValue.writtenMembers_cons hdescription.2]
    simp only [JsValue.writtenMembers, hcontext, Option.map_none]

/-- Nothing else is, unless a free-form member throws. -/
theorem stringifyJsPayload_some {plaintext : String}
    (h : stringifyJsPayload T payload.members payloadVersion = some plaintext) :
    payload.execution.predicate.written ≠ .threw ∧ payload.execution.context.written ≠ .threw ∧
      plaintext = (selectionJson payload).stringify T := by
  by_cases hthrew : payload.execution.predicate.written = .threw ∨
      payload.execution.context.written = .threw
  · simp only [stringifyJsPayload, SelectionContent.members, List.cons_append, List.nil_append,
      JsValue.writtenMembers, JsValue.written, written_toJs_threw hthrew, Option.map_none] at h
    cases h
  · obtain ⟨hpredicate, hcontext⟩ := not_or.mp hthrew
    rw [stringifyJsPayload_selection hpredicate hcontext] at h
    exact ⟨hpredicate, hcontext, (Option.some.inj h).symm⟩

/-! ## Read -/

/-- What a Provider gets to see of an execution part. -/
def SelectionExecution.received (execution : SelectionExecution) (predicate : Json) :
    SelectionExecutionPayload where
  schema := execution.schema
  predicate := predicate.readBack
  description := execution.description
  context := (execution.context.written.value?.map Json.readBack).filter Json.isObject
  mintUrl := execution.mintUrl
  maxAmountSats := execution.maxAmountSats
  amountSats := execution.amountSats
  locktimeSeconds := execution.locktimeSeconds

structure SelectionExecution.Finite (execution : SelectionExecution) : Prop where
  maxAmountSats : execution.maxAmountSats.isFinite = true
  amountSats : execution.amountSats.isFinite = true
  locktimeSeconds : execution.locktimeSeconds.isFinite = true

/-- An execution part without a predicate is refused. -/
theorem parseSelectionExecution_readBack (hfinite : execution.Finite) :
    parseSelectionExecution (executionJson execution).readBack =
      execution.predicate.written.value?.map execution.received := by
  obtain ⟨hmax, hamount, hlocktime⟩ := hfinite
  have hreceived : execution.received = fun predicate =>
      { schema := execution.schema, predicate := predicate.readBack
        description := execution.description
        context := (execution.context.written.value?.map Json.readBack).filter Json.isObject
        mintUrl := execution.mintUrl, maxAmountSats := execution.maxAmountSats
        amountSats := execution.amountSats
        locktimeSeconds := execution.locktimeSeconds } := rfl
  rw [hreceived, executionJson]
  generalize execution.predicate.written.value? = predicate
  generalize execution.context.written.value? = context
  generalize execution.description = description
  -- eight combinations of members that are there or not
  cases predicate <;> cases context <;> cases description <;>
    simp [optionalMember, parseSelectionExecution, Json.readBackMembers, Json.readBack_num hmax,
      Json.readBack_num hamount, Json.readBack_num hlocktime, Json.string?, Json.number?,
      Json.get?, Json.asString?]

/-- So is one without a locktime: NaN and the infinities are written as `null`. -/
theorem parseSelectionExecution_null (hmax : execution.maxAmountSats.isFinite = true)
    (hamount : execution.amountSats.isFinite = true)
    (hlocktime : execution.locktimeSeconds.isFinite = false) :
    parseSelectionExecution (executionJson execution).readBack = none := by
  have hnull : (Json.num execution.locktimeSeconds).readBack = .null :=
    Json.readBack_num_null hlocktime
  rw [executionJson]
  generalize execution.predicate.written.value? = predicate
  generalize execution.context.written.value? = context
  generalize execution.description = description
  cases predicate <;> cases context <;> cases description <;>
    simp [optionalMember, parseSelectionExecution, Json.readBackMembers, Json.readBack_num hmax,
      Json.readBack_num hamount, hnull, Json.string?, Json.number?, Json.get?, Json.asString?]

theorem readBack_selectionJson (payload : SelectionContent) :
    (selectionJson payload).readBack =
      .obj [("status", .str "processing"),
        ("selected_provider_pubkey", .str payload.selectedProviderPubkey),
        ("provider_redemption_token", .str payload.providerRedemptionToken),
        ("execution", (executionJson payload.execution).readBack),
        ("version", .num payloadVersion)] := rfl

theorem parseSelectionFeedbackEvent_eq (hN : N.Lawful)
    (hprovider : payload.selectedProviderPubkey = provider.publicKey)
    (hnumbers : (selectionJson payload).Numbers T)
    (h : buildSelectionFeedbackEvent N T identity requestEventId payload m = some event) :
    parseSelectionFeedbackEvent N T event provider.secretKey identity.publicKey =
      (parseSelectionExecution (executionJson payload.execution).readBack).map fun execution =>
        { selectedProviderPubkey := payload.selectedProviderPubkey
          providerRedemptionToken := payload.providerRedemptionToken
          execution := execution } := by
  obtain ⟨plaintext, hplaintext, hevent⟩ := Option.bind_eq_some_iff.mp h
  obtain ⟨-, -, rfl⟩ := stringifyJsPayload_some hplaintext
  obtain ⟨ciphertext, hciphertext, rfl⟩ := Option.map_eq_some_iff.mp hevent
  have hdecrypted : decryptNip44 N ciphertext provider.secretKey identity.publicKey =
      some ((selectionJson payload).stringify T) := by
    rw [hprovider] at hciphertext
    exact decryptNip44_encryptNip44 hN hciphertext
  have hobject : parseObject T ((selectionJson payload).stringify T) =
      some (selectionJson payload).readBack := by
    rw [parseObject, Json.parse_stringify_readBack hnumbers]
    rfl
  have hexecution : ((some (executionJson payload.execution).readBack).filter Json.isObject).bind
      parseSelectionExecution =
        parseSelectionExecution (executionJson payload.execution).readBack := rfl
  rw [parseSelectionFeedbackEvent]
  simp only [signEvent, hdecrypted, hobject, readBack_selectionJson, Option.bind_eq_bind,
    Option.bind_some]
  cases hparsed : parseSelectionExecution (executionJson payload.execution).readBack with
  | none =>
    rw [hparsed] at hexecution
    simp [hasVersion, Json.hasNumber, Json.string?, Json.get?, Json.asString?, payloadVersion,
      JsNumber.ofInt, hexecution]
  | some execution =>
    rw [hparsed] at hexecution
    simp [hasVersion, Json.hasNumber, Json.string?, Json.get?, Json.asString?, payloadVersion,
      JsNumber.ofInt, hexecution, findTagValue]

/-- A built selection is read back by the selected Provider, unless it came without a predicate. -/
theorem parseSelectionFeedbackEvent_build (hN : N.Lawful)
    (hprovider : payload.selectedProviderPubkey = provider.publicKey)
    (hfinite : payload.execution.Finite) (hnumbers : (selectionJson payload).Numbers T)
    (h : buildSelectionFeedbackEvent N T identity requestEventId payload m = some event) :
    parseSelectionFeedbackEvent N T event provider.secretKey identity.publicKey =
      payload.execution.predicate.written.value?.map fun predicate =>
        { selectedProviderPubkey := payload.selectedProviderPubkey
          providerRedemptionToken := payload.providerRedemptionToken
          execution := payload.execution.received predicate } := by
  rw [parseSelectionFeedbackEvent_eq hN hprovider hnumbers h,
    parseSelectionExecution_readBack hfinite, Option.map_map]
  rfl

end Anchr.Protocol
