import Anchr.Customer.Properties.Purchase
import Anchr.Provider.Job

/-!
# Selections that the Provider takes

When a Customer publishes a selection, the payment is locked already. `request` accepts any
predicate, and `JSON.stringify` leaves out one that is `undefined`.
-/

namespace Anchr.Customer

open Infra Protocol

section

variable {N : NostrTools} {cfg : CustomerContext}

/-! ## Statement -/

/-- The numbers that are written are doubles, as all numbers of the language are. -/
structure Chosen.Numbers (r : Chosen N cfg) : Prop where
  version : cfg.text.double 0
  maxAmount : (Json.num r.options.payment.maxAmount).Numbers cfg.text
  expiresAt : (Json.num (r.payload r.requestedAt).expiresAt).Numbers cfg.text
  amountSats : (Json.num r.selected.amountSats).Numbers cfg.text
  locktimeSeconds : (Json.num r.locktimeSeconds).Numbers cfg.text
  predicate : ∀ v, r.options.spec.predicate.written.value? = some v → v.Numbers cfg.text
  context : ∀ v, r.options.spec.context.written.value? = some v → v.Numbers cfg.text

/-- The parser gives the Provider what the Customer has sent. -/
structure Reads (provider : Keypair N) (r : Bound N cfg) (selectionEvent : Protocol.Event)
    (payload : SelectionFeedbackPayload) : Prop where
  parsed : parseSelectionFeedbackEvent N cfg.text selectionEvent provider.secretKey
    r.identity.publicKey = some payload
  token : payload.providerRedemptionToken = r.lock.token
  schema : payload.execution.schema = r.options.spec.schema
  mintUrl : payload.execution.mintUrl = cfg.mint
  maxAmountSats : payload.execution.maxAmountSats = r.options.payment.maxAmount
  amountSats : payload.execution.amountSats = r.selected.amountSats
  locktimeSeconds : payload.execution.locktimeSeconds = r.bindParams.locktimeSeconds

/-- A job for the request, with the offer that is selected and at the Customer's mint. -/
structure Offers {pcfg : Provider.JobContext N} (job : Provider.Offered pcfg) (r : Chosen N cfg) :
    Prop where
  text : pcfg.text = cfg.text
  event : job.event = r.requestEvent
  amountSats : job.amountSats = r.selected.amountSats
  mintUrl : pcfg.mintUrl = cfg.mint

/-- The Provider's job goes on with the selection. -/
def Takes {pcfg : Provider.JobContext N} (job : Provider.Offered pcfg)
    (selectionEvent : Protocol.Event) : Prop :=
  ∃ selection, Provider.matchSelection pcfg job.payload.customerPubkey selectionEvent =
    some selection ∧ selection.Agrees pcfg job.payload job.amountSats

/-- `JSON.stringify` writes the predicate, and the locktime as a number. -/
def Chosen.Tellable (r : Chosen N cfg) : Prop :=
  r.options.spec.predicate.written ≠ .omitted ∧ r.locktimeSeconds.isFinite = true

/-! ## What is written -/

variable {r : Chosen N cfg} {lock : CashuToken}

theorem isFinite_maxAmount (r : Chosen N cfg) : r.options.payment.maxAmount.isFinite = true :=
  isFinite_of_isPositiveInteger (validateRequest_none.mp r.accepted).maxAmount

theorem isFinite_amountSats (r : Chosen N cfg) : r.selected.amountSats.isFinite = true :=
  isFinite_of_isPositiveInteger r.valid

variable {n : JsNumber} {T : NumberText} {identity : Keypair N} {pcfg : Provider.JobContext N}

theorem strictEq_of_isFinite (h : n.isFinite = true) : n.strictEq n = true := by
  cases n with
  | fin q => simp
  | _ => cases h

theorem isDouble_of_numbers (hfinite : n.isFinite = true) (h : (Json.num n).Numbers T) :
    IsDouble T n := by
  cases n with
  | fin q => exact h
  | _ => cases hfinite

theorem numbers_executionJson (hr : r.Numbers) :
    (executionJson (r.selection lock).execution).Numbers cfg.text := by
  show Json.NumbersMembers cfg.text _
  rw [Json.numbersMembers_iff]
  intro m hm
  simp only [List.mem_append, List.mem_cons, List.not_mem_nil, or_false, optionalMember,
    Option.mem_toList, Option.map_eq_some_iff] at hm
  rcases hm with
    (((rfl | ⟨v, hv, rfl⟩) | ⟨v, ⟨s, -, rfl⟩, rfl⟩) | ⟨v, hv, rfl⟩) | rfl | rfl | rfl | rfl
  · trivial
  · exact hr.predicate v hv
  · trivial
  · exact hr.context v hv
  · trivial
  · exact hr.maxAmount
  · exact hr.amountSats
  · exact hr.locktimeSeconds

theorem numbers_selection (hr : r.Numbers) :
    (selectionJson (r.selection lock)).Numbers cfg.text :=
  ⟨trivial, trivial, trivial, numbers_executionJson hr, hr.version, trivial⟩

/-! ## What is read -/

variable {b : Bound N cfg} {provider : Keypair N} {selectionEvent : Protocol.Event} {m : Moment}

def Bound.received (b : Bound N cfg) (predicate : Json) : SelectionFeedbackPayload where
  selectedProviderPubkey := b.selected.providerPubkey
  providerRedemptionToken := b.lock.token
  execution := (b.toChosen.selection b.lock).execution.received predicate

/-- A selection that cannot be told is not read at all. -/
theorem parse_selection (hN : N.Lawful) (hr : b.toChosen.Numbers)
    (hprovider : b.selected.providerPubkey = provider.publicKey)
    (hbuilt : buildSelectionFeedbackEvent N cfg.text b.identity b.requestEvent.id
      (b.toChosen.selection b.lock) m = some selectionEvent) :
    (b.toChosen.Tellable ∧ ∃ predicate, parseSelectionFeedbackEvent N cfg.text selectionEvent
        provider.secretKey b.identity.publicKey = some (b.received predicate)) ∨
      (¬b.toChosen.Tellable ∧ parseSelectionFeedbackEvent N cfg.text selectionEvent
        provider.secretKey b.identity.publicKey = none) := by
  have hmax := isFinite_maxAmount b.toChosen
  have hamount := isFinite_amountSats b.toChosen
  have hnumbers : (selectionJson (b.toChosen.selection b.lock)).Numbers cfg.text :=
    numbers_selection hr
  obtain ⟨plaintext, hplaintext, -⟩ := Option.bind_eq_some_iff.mp hbuilt
  have hwritten : b.options.spec.predicate.written ≠ .threw :=
    (stringifyJsPayload_some hplaintext).1
  by_cases hlocktime : b.locktimeSeconds.isFinite = true
  · have hparsed := parseSelectionFeedbackEvent_build hN hprovider ⟨hmax, hamount, hlocktime⟩
      hnumbers hbuilt
    have hpredicate : (b.toChosen.selection b.lock).execution.predicate =
        b.options.spec.predicate := rfl
    rw [hpredicate] at hparsed
    cases hcase : b.options.spec.predicate.written with
    | omitted =>
      rw [hcase] at hparsed
      exact .inr ⟨fun h => h.1 hcase, hparsed⟩
    | json predicate =>
      rw [hcase] at hparsed
      refine .inl ⟨⟨?_, hlocktime⟩, predicate, hparsed⟩
      rw [hcase]
      exact fun h => by cases h
    | threw => exact absurd hcase hwritten
  · have hnone : parseSelectionExecution
        (executionJson (b.toChosen.selection b.lock).execution).readBack = none :=
      parseSelectionExecution_null hmax hamount (Bool.eq_false_iff.mpr hlocktime)
    refine .inr ⟨fun h => hlocktime h.2, ?_⟩
    rw [parseSelectionFeedbackEvent_eq hN hprovider hnumbers hbuilt, hnone]
    rfl

theorem reads_iff (hN : N.Lawful) (hr : b.toChosen.Numbers)
    (hprovider : b.selected.providerPubkey = provider.publicKey)
    (hbuilt : buildSelectionFeedbackEvent N cfg.text b.identity b.requestEvent.id
      (b.toChosen.selection b.lock) m = some selectionEvent) :
    (∃ payload, Reads provider b selectionEvent payload) ↔ b.toChosen.Tellable := by
  rcases parse_selection hN hr hprovider hbuilt with ⟨htellable, predicate, hparsed⟩ | ⟨hnot, hnone⟩
  · refine ⟨fun _ => htellable, fun _ => ⟨b.received predicate, hparsed, rfl, rfl, rfl, rfl, rfl, rfl⟩⟩
  · refine ⟨fun ⟨payload, hreads⟩ => ?_, fun h => absurd h hnot⟩
    have hparsed := hreads.parsed
    rw [hnone] at hparsed
    cases hparsed

/-! ## What the job makes of it -/

/-- A request whose numbers are not all finite is not read, so one that is read is read as it was
written. -/
theorem payload_of_parsed (hzero : T.double 0) {toUpperCase : String → String}
    {payload payload' : QueryRequestPayload} {regionCode : Option String} {nowMs : JsNumber}
    (hmax : IsDouble T payload.maxAmountSats) (hexpires : (Json.num payload.expiresAt).Numbers T)
    (h : parseQueryRequestEvent T
      (buildQueryRequestEvent N T toUpperCase identity payload regionCode nowMs) = some payload') :
    payload' = payload := by
  by_cases hfinite : payload.expiresAt.isFinite = true
  · have hread : parseQueryRequestEvent T
        (buildQueryRequestEvent N T toUpperCase identity payload regionCode nowMs) = some payload :=
      (readAs_request hzero hmax (isDouble_of_numbers hfinite hexpires)).payload
    exact Option.some.inj (h.symm.trans hread)
  · have hnull : (Json.num payload.expiresAt).readBack = .null :=
      Json.readBack_num_null (Bool.eq_false_iff.mpr hfinite)
    have hnumbers : (Json.obj (queryRequestMembers payload ++
        [("version", .num payloadVersion)])).Numbers T :=
      ⟨trivial, trivial, trivial, trivial, Json.numbers_of_doubles hmax, hexpires, hzero, trivial⟩
    have hobject : parseObject T
        (buildQueryRequestEvent N T toUpperCase identity payload regionCode nowMs).content =
          some (Json.obj (queryRequestMembers payload ++
            [("version", .num payloadVersion)])).readBack := by
      rw [parseObject]
      show (Json.parse T (Json.stringify T (.obj (queryRequestMembers payload ++ _)))).filter _ = _
      rw [Json.parse_stringify_readBack hnumbers]
      rfl
    rw [parseQueryRequestEvent, hobject] at h
    simp [buildQueryRequestEvent, signEvent, queryRequestMembers, Json.readBackMembers, hnull,
      Json.number?, Json.get?] at h

theorem payload_of_job (htext : pcfg.text = cfg.text) {job : Provider.Job pcfg} (hr : r.Numbers)
    (hevent : job.event = r.requestEvent) :
    job.payload = r.payload r.requestedAt := by
  obtain ⟨nowMs, hrequested⟩ := r.requested
  have hparsed := job.parsed
  rw [htext, hevent, hrequested] at hparsed
  exact payload_of_parsed hr.version (isDouble_of_numbers (isFinite_maxAmount r) hr.maxAmount)
    hr.expiresAt hparsed

theorem takes_iff (hN : N.Lawful) (hr : b.toChosen.Numbers) {job : Provider.Offered pcfg}
    (hprovider : b.selected.providerPubkey = pcfg.identity.publicKey)
    (hjob : Offers job b.toChosen)
    (hbuilt : buildSelectionFeedbackEvent N cfg.text b.identity b.requestEvent.id
      (b.toChosen.selection b.lock) m = some selectionEvent) :
    Takes job selectionEvent ↔ b.toChosen.Tellable := by
  have hpayload := payload_of_job hjob.text hr hjob.event
  have htag : findTagValue selectionEvent "p" = some pcfg.identity.publicKey :=
    hprovider ▸ findTagValue_selection hbuilt
  have hmatch : Provider.matchSelection pcfg job.payload.customerPubkey selectionEvent =
      (parseSelectionFeedbackEvent N cfg.text selectionEvent pcfg.identity.secretKey
        b.identity.publicKey).map fun parsed =>
          ⟨parsed.providerRedemptionToken, parsed.execution⟩ := by
    rw [Provider.matchSelection, htag, hpayload, hjob.text]
    simp [Request.payload]
  rcases parse_selection hN hr hprovider hbuilt with ⟨htellable, predicate, hparsed⟩ | ⟨hnot, hnone⟩
  · refine ⟨fun _ => htellable, fun _ => ⟨_, by rw [hmatch, hparsed]; rfl, ?_⟩⟩
    rw [hpayload, hjob.amountSats]
    exact ⟨rfl, strictEq_of_isFinite (isFinite_maxAmount b.toChosen),
      strictEq_of_isFinite (isFinite_amountSats b.toChosen), hjob.mintUrl.symm⟩
  · refine ⟨fun ⟨selection, hselection, _⟩ => ?_, fun h => absurd h hnot⟩
    rw [hmatch, hnone] at hselection
    cases hselection

/--
Take any run of a Customer, with any options, answers and thrown values in any order, in which a
request has published its selection. The request was accepted, has selected a valid offer within its
budget, and its lock is bound. The selected Provider reads from the selection event what the
Customer has sent, and a job of it that made the offer for this request takes the selection, exactly
when `JSON.stringify` writes the predicate and the locktime is finite.
-/
theorem selection_taken_iff (hN : N.Lawful) {store : JsMap String String}
    {G : CallState Tables (Pending N cfg) →
      CallAction (RequestOptions × Draws) (Answer × Draws) → Prop}
    {tr : List Event} {s : CallState Tables (Pending N cfg)}
    (hrun : Run (customerService N cfg).machine G (initialState N cfg store) tr s)
    {call : Nat} {selectionEvent : Protocol.Event}
    (hpublished : .selectionPublished call selectionEvent ∈ tr) :
    (∃ b : Sent N cfg, b.selectionEvent = selectionEvent ∧
      .requestStarted call b.options ∈ tr ∧ Accepted cfg b.options ∧
      .requestPublished call b.requestEvent ∈ tr ∧ .offerSelected call b.selected ∈ tr ∧
      .bindCalled call b.bindParams ∈ tr ∧ .lockBound call b.lock ∈ tr) ∧
    ∀ b : Sent N cfg, b.selectionEvent = selectionEvent → b.toChosen.Numbers →
      ∀ provider : Keypair N, b.selected.providerPubkey = provider.publicKey →
        ((∃ payload, Reads provider b.toBound selectionEvent payload) ↔ b.toChosen.Tellable) ∧
        ∀ (pcfg : Provider.JobContext N) (job : Provider.Offered pcfg),
          pcfg.identity = provider → Offers job b.toChosen →
            (Takes job selectionEvent ↔ b.toChosen.Tellable) := by
  have hany : ∀ s a, G s a → Throws (fun _ _ _ => True) s a := by
    intro s a _
    cases a with
    | begin _ => trivial
    | resume _ _ => exact fun _ _ _ _ _ _ _ => trivial
  obtain ⟨pre, hpre, r, hknown, rfl⟩ := justifies_of_run hany hrun hpublished
  obtain ⟨⟨⟨hstarted, hrequested⟩, hselected, hbind⟩, hlock⟩ := hknown.subset hpre
  refine ⟨⟨r, rfl, hstarted, validateRequest_none.mp r.accepted, hrequested, hselected, hbind,
    hlock⟩, fun b hsent hnumbers provider hprovider => ?_⟩
  obtain ⟨m, hbuilt⟩ := b.selects
  rw [hsent] at hbuilt
  refine ⟨reads_iff hN hnumbers hprovider hbuilt, ?_⟩
  rintro pcfg job rfl hjob
  exact takes_iff hN hnumbers hprovider hjob hbuilt

end

/-! ## Two requests -/

theorem expiresAt_plain : ((plainContext.wholeSeconds (plainContext.add (.ofInt 1000000)
    plainContext.offerWindowMs)).scale 1000).rounded plainContext.round = .ofInt 1030000 := by
  decide +kernel

variable {predicate : JsValue}

theorem numbers_plain
    (hpredicate : ∀ v, predicate.written.value? = some v → v.Numbers .safeIntegers) :
    (plainBound predicate).toChosen.Numbers where
  version := safeIntegers_zero
  maxAmount := ⟨rfl, by decide⟩
  expiresAt := by
    show (Json.num (((plainContext.wholeSeconds (plainContext.add (.ofInt 1000000)
      plainContext.offerWindowMs)).scale 1000).rounded plainContext.round)).Numbers _
    rw [expiresAt_plain]
    exact ⟨rfl, by decide⟩
  amountSats := ⟨rfl, by decide⟩
  locktimeSeconds := by
    have hlocktime : plainContext.add (plainContext.wholeSeconds (.ofInt 1000000)) (.ofInt 3600) =
        .ofInt 4600 := by decide +kernel
    show (Json.num (plainContext.add (plainContext.wholeSeconds (.ofInt 1000000))
      (.ofInt 3600))).Numbers _
    rw [hlocktime]
    exact ⟨rfl, by decide⟩
  predicate := hpredicate
  context v hv := by cases hv

theorem numbers_null : (plainBound .null).toChosen.Numbers :=
  numbers_plain fun v hv => by
    cases hv
    trivial

/-- The Provider of the plain request. -/
def plainJobContext : Provider.JobContext Oracle.plainNostr where
  text := .safeIntegers
  identity := Oracle.plainKeypair "pk"
  oracles := ["oracle"]
  mintUrl := "https://m.test"
  stateStore := false
  isSchemaUri _ := true

theorem parse_plainRequest : parseQueryRequestEvent .safeIntegers (plainBound .null).requestEvent =
    some ((plainBound .null).payload (.ofInt 1000000)) := by
  have hmax : IsDouble .safeIntegers (.ofInt 100) := ⟨rfl, by decide⟩
  have hexpires : IsDouble .safeIntegers ((plainBound .null).payload (.ofInt 1000000)).expiresAt :=
    isDouble_of_numbers rfl numbers_null.expiresAt
  exact (readAs_request safeIntegers_zero hmax hexpires).payload

theorem withinBudget_plain : (JsNumber.ofInt 100).lt (.ofInt 21) = false := by
  decide

/-- The job of the Provider that has made the offer. -/
def plainOffered : Provider.Offered plainJobContext where
  event := (plainBound .null).requestEvent
  payload := (plainBound .null).payload (.ofInt 1000000)
  parsed := parse_plainRequest
  whitelisted := by decide
  amountSats := .ofInt 21
  offerEvent := _
  withinBudget := withinBudget_plain
  built := ⟨plainDraws.m, rfl⟩

/-- With a predicate, the selected Provider reads the selection, and its job takes it. -/
theorem selection_taken_iff_plain :
    ∃ tr s selectionEvent,
      Run (customerService Oracle.plainNostr plainContext).machine AnyStep
        (initialState Oracle.plainNostr plainContext .empty) tr s ∧
      .lockBound 0 plainHelpers.lock ∈ tr ∧ .selectionPublished 0 selectionEvent ∈ tr ∧
      (∃ payload, Reads (Oracle.plainKeypair "pk") (plainBound .null) selectionEvent payload) ∧
      Takes plainOffered selectionEvent := by
  obtain ⟨selectionEvent, hbuilt⟩ := plainNostr_builds (T := .safeIntegers)
    (plainBound .null).identity (plainBound .null).requestEvent.id
    ((plainBound .null).toChosen.selection plainHelpers.lock) plainDraws.m
    (fun h => by cases h) (fun h => by cases h)
  obtain ⟨s, hrun, -⟩ := run_of_serve (serve_plainOptions .null) rfl rfl hbuilt (G := AnyStep)
    (fun _ _ => trivial) fun _ _ _ => trivial
  have htellable : (plainBound .null).toChosen.Tellable := ⟨nofun, rfl⟩
  obtain ⟨hreads, htakes⟩ := (selection_taken_iff Oracle.plainNostr_lawful hrun
    (show Event.selectionPublished 0 selectionEvent ∈ _ by simp)).2
    { plainBound .null with selectionEvent, selects := ⟨plainDraws.m, hbuilt⟩ } rfl
    numbers_null (Oracle.plainKeypair "pk") rfl
  exact ⟨_, s, selectionEvent, hrun, by simp, by simp, hreads.mpr htellable,
    (htakes plainJobContext plainOffered rfl ⟨rfl, rfl, rfl, rfl⟩).mpr htellable⟩

/-- Without one, the lock over 21 sats is bound all the same, and the selected Provider cannot read
the selection. -/
theorem locked_without_predicate :
    ∃ tr s selectionEvent reason,
      Run (customerService Oracle.plainNostr plainContext).machine AnyStep
        (initialState Oracle.plainNostr plainContext .empty) tr s ∧
      tr.filterMap Event.purchase = [(0, .started (plainOptions .undefined)),
        (0, .locked plainHelpers.lock), (0, .selected selectionEvent), (0, .rejected reason)] ∧
      parseSelectionFeedbackEvent Oracle.plainNostr .safeIntegers selectionEvent "pk" "customer" =
        none := by
  have hundefined : (JsValue.undefined).written ≠ .threw := fun h => by cases h
  obtain ⟨tr, s, selectionEvent, hrun, hpurchase, hbuilt⟩ := run_plain _ hundefined (.other none)
    (G := AnyStep) (fun _ _ => trivial) fun _ _ _ => trivial
  refine ⟨tr, s, selectionEvent, _, hrun, hpurchase, ?_⟩
  have hprovider : (plainBound .undefined).selected.providerPubkey =
      (Oracle.plainKeypair "pk").publicKey := rfl
  rcases parse_selection Oracle.plainNostr_lawful (numbers_plain fun v hv => by cases hv) hprovider
    hbuilt with ⟨htellable, -⟩ | ⟨-, hnone⟩
  · exact absurd rfl htellable.1
  · exact hnone

end Anchr.Customer
