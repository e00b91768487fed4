import Anchr.Oracle.Passes
import Anchr.Proofs.Verifier

/-!
# Delivering a result again

When no relay accepts the release of a verified result, the pass ends without a verdict. The request
stays watched and the preimage stays in the store, so that a later pass can deliver it. That pass
verifies the same evidence again.
-/

namespace Anchr.Oracle

open Infra Proofs Protocol Requests

variable {N : NostrTools}

/-- From `s₀` on, `handleResponseEvent` processes `event` for a watched request, beside any other
calls. It has ended by `s`: the verification passed, and no relay accepted the release. -/
structure FailedDelivery (cfg : Config N) (s₀ : CallState Tables Pending) (m : Moment)
    (queryId : String) (entry : WatchedQuery) (event : Protocol.Event)
    (payload : OracleQueryResponsePayload) (s : CallState Tables Pending) : Prop where
  watched : s₀.shared.watched.get? queryId = some entry
  processed : ∃ s₁ evs tr,
    (oracleService cfg).machine.step s₀ (.begin (.responseEvent queryId event m)) =
      some (s₁, evs) ∧
    .resultAccepted s₀.nextCall queryId entry event payload ∈ evs ∧
    Run (oracleService cfg).machine AnyStep s₁ tr s ∧
    Undelivered cfg s₀.nextCall queryId entry event payload (evs ++ tr)

/-- What the verifier checks the result against. -/
def requirementOf (R : TlsnTools) (entry : WatchedQuery) : VerificationRequirement :=
  requestToRequirement R.sha256 entry.query

/-- The evidence that the verifier is given. -/
def inputOf (cfg : Config N) (entry : WatchedQuery) (payload : OracleQueryResponsePayload) :
    VerificationInput :=
  resultToVerificationInput
    (oracleResponseToResult cfg.resolveSchemaEvidence entry.query payload)

section

variable {cfg : Config N} {s₀ s : CallState Tables Pending} {m₀ m : Moment} {queryId : String}
  {entry entry' : WatchedQuery} {event : Protocol.Event} {payload : OracleQueryResponsePayload}

theorem FailedDelivery.accepts (h : FailedDelivery cfg s₀ m₀ queryId entry event payload s)
    (hquorum : entry.query.quorum = none) :
    Accepts cfg entry event payload ∧ event.pubkey ≠ "" := by
  obtain ⟨s₁, evs, tr, hstep, haccepted, -, -⟩ := h.processed
  cases hstep
  rcases (begin_cases h.watched hquorum : (oracleService cfg).begin s₀.shared s₀.nextCall
    (.responseEvent queryId event m₀) = _ ∨ _) with hbegin | ⟨payload', haccepts, hpubkey, hbegin⟩
  · rw [hbegin] at haccepted
    cases haccepted
  · rw [hbegin] at haccepted
    cases List.mem_singleton.mp haccepted
    exact ⟨haccepts, hpubkey⟩

/-- The service can always come to a failed delivery when there is a preimage to publish. Nothing is
lost by it: the request stays watched and the preimage stays in the store. -/
theorem exists_failedDelivery (hwatched : s₀.shared.watched.get? queryId = some entry)
    (haccepts : Accepts cfg entry event payload) (hpubkey : event.pubkey ≠ "")
    (hquorum : entry.query.quorum = none)
    (hreleasable : Releasable cfg s₀.shared queryId event.pubkey m₀) :
    ∃ s, FailedDelivery cfg s₀ m₀ queryId entry event payload s ∧ s.shared = s₀.shared := by
  have hfails : ∃ evs, Pass cfg passedDetail [] m₀ s₀.shared s₀.nextCall queryId event evs
      s₀.shared ∧ Undelivered cfg s₀.nextCall queryId entry event payload evs :=
    pass_fails hwatched haccepts hpubkey hquorum rfl hreleasable
  obtain ⟨evs, hpass, hundelivered⟩ := hfails
  obtain ⟨s₁, tr, s, hstep, hrun, rfl, hshared⟩ := hpass.run
  refine ⟨s, ⟨hwatched, s₁, _, tr, hstep, ?_, hrun, hundelivered⟩, hshared⟩
  have hbegin : (oracleService cfg).begin s₀.shared s₀.nextCall (.responseEvent queryId event m₀) =
    _ := begin_of_accepts hwatched haccepts hpubkey hquorum
  rw [hbegin]
  exact List.mem_singleton_self _

/--
Delivery of a verified result has failed, the request is still watched with the same Provider
selected, and the same event comes again. The verifier, at any later time inside the freshness
window, starts from the replay guard that the first verification has left, and a relay accepts.
Then the service publishes the preimage and no rejection exactly when there is a preimage to publish
and the guard has forgotten the presentation.
-/
theorem redelivery_releases_iff {R : TlsnTools} {crypto : VerifierBinaryResult}
    (hfailed : FailedDelivery cfg s₀ m₀ queryId entry event payload s)
    (hquorum : entry.query.quorum = none) {g : ReplayGuard} {v₁ v₂ : Inspection}
    (hfirst : Passes R g v₁ (requirementOf R entry) (inputOf cfg entry payload) crypto)
    (hwatched : s.shared.watched.get? queryId = some entry') (hquery : entry'.query = entry.query)
    (hrequest : entry'.queryEventId = entry.queryEventId)
    (hselected : entry'.selectedProviderPubkey = entry.selectedProviderPubkey)
    (hwindow : InWindow (requirementOf R entry) (inputOf cfg entry payload) crypto v₂)
    {detail : VerificationDetail}
    (hdetail : (inspect R (inspect R g v₁ (requirementOf R entry) (inputOf cfg entry payload)
      crypto).1 v₂ (requirementOf R entry) (inputOf cfg entry payload) crypto).2 = some detail)
    {successes : List String} (hsuccesses : successes ≠ []) :
    (∃ evs s', Run (oracleService cfg).machine AnyStep s evs s' ∧
      Pass cfg detail successes m s.shared s.nextCall queryId event evs s'.shared ∧
      (∃ e ∈ evs, e.isRelease) ∧ ∀ e ∈ evs, ¬e.isRejection) ↔
    (Releasable cfg s.shared queryId event.pubkey m ∧
      Forgotten R (requirementOf R entry) (inputOf cfg entry payload)
        (inspect R g v₁ (requirementOf R entry) (inputOf cfg entry payload) crypto).1 v₂) := by
  obtain ⟨haccepts, hpubkey⟩ := hfailed.accepts hquorum
  have haccepts' : Accepts cfg entry' event payload :=
    ⟨hselected.trans haccepts.selected, haccepts.parsed, hquery ▸ haccepts.queryId,
      haccepts.requestEventId.trans hrequest.symm⟩
  have hquorum' : entry'.query.quorum = none := by rw [hquery, hquorum]
  constructor
  · rintro ⟨evs, s', -, hpass, ⟨e, he, hrelease⟩, -⟩
    obtain ⟨hpassed, hreleasable⟩ := released_of_pass hwatched hquorum' hpass he hrelease
    exact ⟨hreleasable, (passes_iff_forgotten hfirst hwindow).mp ⟨detail, hdetail, hpassed⟩⟩
  · rintro ⟨hreleasable, hforgotten⟩
    obtain ⟨detail', hdetail', hpassed⟩ := (passes_iff_forgotten hfirst hwindow).mpr hforgotten
    rw [hdetail] at hdetail'
    obtain rfl := Option.some.inj hdetail'
    obtain ⟨evs, t', hpass, hrelease, hnone⟩ := pass_releases hwatched haccepts' hpubkey hquorum'
      hpassed hreleasable hsuccesses
    obtain ⟨s₁, tr, s', hstep, hrun, hevs, rfl⟩ := hpass.run
    have hall := hrun.cons trivial hstep
    rw [← hevs] at hall
    exact ⟨evs, s', hall, hpass, hrelease, hnone⟩

end

/-! ## A request with a TLSNotary presentation -/

/-- An Oracle that takes TLSNotary evidence. -/
def tlsnConfig : Config plainNostr where
  __ := plainConfig
  resolveSchemaEvidence schema _ proof :=
    if schema = tlsnV1 then resolveTlsnEvidence proof else none

/-- The attestation may be ten days old. -/
def tlsnQuery : Query where
  __ := plainQuery
  schema := some tlsnV1
  schemaRequirement := some (.obj [("target_url", .str "https://api.test/"),
    ("max_attestation_age_seconds", .num (.ofInt 864000))])

/-- The request, watched for its selected Provider. -/
def tlsnEntry : WatchedQuery where
  query := tlsnQuery
  queryEventId := "e"
  customerPubkey := "customer"
  selectedProviderPubkey := some "pk"

/-- A result with a presentation. -/
def tlsnResult : Protocol.Event where
  __ := plainResult
  tags := [["oracle_payload", plainKey "oracle" "pk" ++ stringifyPayload .safeIntegers
    [("schema", .str tlsnV1), ("query_id", .str "q"), ("request_event_id", .str "e"),
      ("data", .obj []), ("proof", .str "cA==")] payloadVersion]]

/-- The request is watched, `pk` is selected, and the hash of the preimage `s` has been issued. -/
def tlsnTables : Tables where
  preimages := JsMap.empty.set "hash of s" "s"
  queryHashMap := JsMap.empty.set "q" "hash of s"
  watched := JsMap.empty.set "q" tlsnEntry

def tlsnPayload : OracleQueryResponsePayload where
  schema := tlsnV1
  queryId := "q"
  requestEventId := "e"
  data := .obj []
  proof := "cA=="

theorem accepts_tlsnResult : Accepts tlsnConfig tlsnEntry tlsnResult tlsnPayload := by
  have hobject : parseObject .safeIntegers (stringifyPayload .safeIntegers
      [("schema", .str tlsnV1), ("query_id", .str "q"), ("request_event_id", .str "e"),
        ("data", .obj []), ("proof", .str "cA==")] payloadVersion) = some _ :=
    parseObject_stringifyPayload (by
      simp [Json.Doubles, Json.DoublesMembers, NumberText.safeIntegers, JsNumber.ofInt,
        payloadVersion])
  have hfound : findFilledTag tlsnResult.tags "oracle_payload" = some _ := rfl
  have hparsed : parseOracleQueryResponseEvent plainNostr .safeIntegers tlsnResult "oracle" "pk" =
      some tlsnPayload := by
    rw [parseOracleQueryResponseEvent, hfound, Option.bind_eq_bind, Option.bind_some,
      plainKey_comm "oracle" "pk", decryptNip44_plainNostr, Option.bind_eq_bind, Option.bind_some,
      hobject]
    rfl
  exact ⟨rfl, hparsed, rfl, rfl⟩

theorem tlsnTask_tlsnResult :
    tlsnTask (requirementOf plainTlsnTools tlsnEntry) (inputOf tlsnConfig tlsnEntry tlsnPayload) =
      .ok (plainTlsn, "cA==") := rfl

theorem releasable_tlsnTables :
    Releasable tlsnConfig tlsnTables "q" tlsnResult.pubkey plainMoment :=
  ⟨"hash of s", "s", _, rfl, by decide, rfl, by decide, rfl⟩

/-- The verifier inspects the presentation at this second. -/
abbrev inspectResult (g : ReplayGuard) (seconds : Int) : ReplayGuard × Option VerificationDetail :=
  inspect plainTlsnTools g (inspectionAt seconds) (requirementOf plainTlsnTools tlsnEntry)
    (inputOf tlsnConfig tlsnEntry tlsnPayload) plainCrypto

/-- Eight days lie between the verifications, so the guard has forgotten the presentation. -/
theorem redelivery_releases_after_retention :
    ∃ s detail evs s', FailedDelivery tlsnConfig { shared := tlsnTables } plainMoment "q" tlsnEntry
        tlsnResult tlsnPayload s ∧
      (inspectResult (inspectResult {} 1001).1 692201).2 = some detail ∧
      Run (oracleService tlsnConfig).machine AnyStep s evs s' ∧
      Pass tlsnConfig detail ["relay"] plainMoment s.shared s.nextCall "q" tlsnResult evs
        s'.shared ∧
      (∃ e ∈ evs, e.isRelease) ∧ ∀ e ∈ evs, ¬e.isRejection := by
  have hexists : ∃ s, FailedDelivery tlsnConfig { shared := tlsnTables } plainMoment "q" tlsnEntry
      tlsnResult tlsnPayload s ∧ s.shared = tlsnTables :=
    exists_failedDelivery rfl accepts_tlsnResult (by decide) rfl releasable_tlsnTables
  obtain ⟨s, hfailed, hshared⟩ := hexists
  have hfirst : Passes plainTlsnTools {} (inspectionAt 1001)
      (requirementOf plainTlsnTools tlsnEntry) (inputOf tlsnConfig tlsnEntry tlsnPayload)
      plainCrypto := by decide +kernel
  have hwindow : InWindow (requirementOf plainTlsnTools tlsnEntry)
      (inputOf tlsnConfig tlsnEntry tlsnPayload) plainCrypto (inspectionAt 692201) :=
    (inWindow_iff tlsnTask_tlsnResult).mpr ⟨_, rfl, by decide +kernel⟩
  have hforgotten : Forgotten plainTlsnTools (requirementOf plainTlsnTools tlsnEntry)
      (inputOf tlsnConfig tlsnEntry tlsnPayload) (inspectResult {} 1001).1 (inspectionAt 692201) :=
    (forgotten_iff tlsnTask_tlsnResult).mpr (by decide +kernel)
  obtain ⟨detail, hdetail, -⟩ := (passes_iff_forgotten hfirst hwindow).mpr hforgotten
  have hwatched : s.shared.watched.get? "q" = some tlsnEntry := by
    rw [hshared]
    rfl
  have hreleasable : Releasable tlsnConfig s.shared "q" tlsnResult.pubkey plainMoment := by
    rw [hshared]
    exact releasable_tlsnTables
  obtain ⟨evs, s', hresult⟩ := (redelivery_releases_iff hfailed rfl hfirst hwatched rfl rfl rfl
    hwindow hdetail (List.cons_ne_nil "relay" [])).mpr ⟨hreleasable, hforgotten⟩
  exact ⟨s, detail, evs, s', hfailed, hdetail, hresult⟩

/-- The result event is delivered twice, with the two answers of the verifier. No relay accepts what
is published before the second delivery. -/
def redeliveryActions (first second : VerificationDetail) :
    List (CallAction Request (Answer × Moment)) :=
  hashActions 0 "s" ++
    [.begin (.watchRequest tlsnQuery "e" "customer"), .begin (.recordSelectedProvider "q" "pk"),
      .begin (.responseEvent "q" tlsnResult plainMoment), .resume 3 (.verified first, plainMoment),
      .resume 3 (.resolved, plainMoment), .resume 3 (.published [], plainMoment),
      .resume 3 (.resolved, plainMoment), .resume 3 (.published [], plainMoment),
      .resume 3 (.resolved, plainMoment), .resume 3 (.published [], plainMoment),
      .resume 3 (.resolved, plainMoment),
      .begin (.responseEvent "q" tlsnResult plainMoment), .resume 4 (.verified second, plainMoment),
      .resume 4 (.resolved, plainMoment), .resume 4 (.published ["relay"], plainMoment),
      .resume 4 (.resolved, plainMoment)]

/-- The verdicts when the result is verified at two times. -/
def redeliveryVerdicts (first second : Int) : Option (List (String × Verdict)) :=
  (inspectResult {} first).2.bind fun detail =>
    (inspectResult (inspectResult {} first).1 second).2.bind fun detail' =>
      ((oracleService tlsnConfig).machine.exec (initialState .empty)
        (redeliveryActions detail detail')).map fun r => r.2.filterMap Event.verdict

/-- The event comes back after a second, inside the freshness window. The three attempts of the
first delivery are followed by a rejection. -/
theorem redelivery_rejected :
    Passes plainTlsnTools {} (inspectionAt 1001) (requirementOf plainTlsnTools tlsnEntry)
      (inputOf tlsnConfig tlsnEntry tlsnPayload) plainCrypto ∧
    InWindow (requirementOf plainTlsnTools tlsnEntry) (inputOf tlsnConfig tlsnEntry tlsnPayload)
      plainCrypto (inspectionAt 1002) ∧
    redeliveryVerdicts 1001 1002 = some [("q", .preimage "s"), ("q", .preimage "s"),
      ("q", .preimage "s"), ("q", .rejection)] := by
  refine ⟨by decide +kernel, ?_, by decide +kernel⟩
  exact (inWindow_iff tlsnTask_tlsnResult).mpr ⟨_, rfl, by decide +kernel⟩

end Anchr.Oracle
