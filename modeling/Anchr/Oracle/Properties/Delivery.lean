import Anchr.Oracle.History

/-!
# The Oracle's release and the Provider's matcher

The Oracle builds its preimage message with `buildPreimageDM`. The Provider reads it with
`parsePreimageDeliveryEvent`, which asks for a version and a request event id.
-/

namespace Anchr.Oracle

open Infra Protocol Requests

variable {N : NostrTools} {T : NumberText}

variable {dm : Protocol.Event} {oracle provider : Keypair N} {preimage queryId : String}
  {m : Moment}

theorem preimageFilter_buildPreimageDM
    (h : buildPreimageDM N T oracle provider.publicKey queryId preimage m = some dm) :
    preimageFilter N provider oracle.publicKey dm = true := by
  obtain ⟨ciphertext, -, rfl⟩ := Option.map_eq_some_iff.mp h
  simp [preimageFilter, signEvent, oracle.derived]

/-- Whatever ids the Provider waits for, the matcher refuses the message: it has no version. -/
theorem matchPreimage_buildPreimageDM (hN : N.Lawful)
    (h : buildPreimageDM N T oracle provider.publicKey queryId preimage m = some dm)
    (queryId' requestEventId : String) :
    matchPreimage N T provider oracle.publicKey queryId' requestEventId dm = none := by
  have hpayload := decryptDmJson_buildPreimageDM hN h
  have hversion : hasVersion (.obj [("type", .str "preimage"), ("query_id", .str queryId),
      ("preimage", .str preimage)]) payloadVersion = false := by
    simp [hasVersion, Json.hasNumber, Json.get?]
  simp [matchPreimage, parsePreimageDeliveryEvent, hpayload, hversion]

/-- It takes what the protocol's own builder makes. -/
theorem matchPreimage_buildPreimageDeliveryEvent (hN : N.Lawful) (hzero : T.double 0)
    {payload : PreimageDeliveryPayload}
    (h : buildPreimageDeliveryEvent N T oracle provider.publicKey payload m = some dm) :
    matchPreimage N T provider oracle.publicKey payload.queryId payload.requestEventId dm
      = some payload.preimage := by
  have hdoubles : (Json.obj ([("query_id", .str payload.queryId),
      ("request_event_id", .str payload.requestEventId), ("preimage", .str payload.preimage)] ++
      [("version", .num payloadVersion)])).Doubles T := by
    simp [Json.Doubles, Json.DoublesMembers, payloadVersion, JsNumber.ofInt, hzero]
  have hpayload := decryptDmJson_encryptedDm hN hdoubles rfl h
  simp [matchPreimage, parsePreimageDeliveryEvent, hpayload, hasVersion, Json.hasNumber, Json.get?,
    Json.string?, Json.asString?, payloadVersion, JsNumber.ofInt]

variable {providerPubkey : String}

theorem built_of_published {cfg : Config N} {preimages : JsMap String String}
    {G : CallState Tables Pending → CallAction Request (Answer × Moment) → Prop} {tr : List Event}
    {s : CallState Tables Pending}
    (hrun : Run (oracleService cfg).machine G (initialState preimages) tr s) {call : Nat}
    {hash : String} (hmem : .preimagePublished call queryId providerPubkey hash preimage dm ∈ tr) :
    ∃ m, buildPreimageDM N cfg.text cfg.identity providerPubkey queryId preimage m = some dm := by
  have hJ : Justified (EventExplained cfg (fun _ => True) fun _ _ => True) tr :=
    explained_of_run (fun _ => trivial) (fun _ _ _ => trivial) (fun _ x _ => x.admitted_any) hrun
  obtain ⟨pre, post, rfl⟩ := List.append_of_mem hmem
  obtain ⟨d, rfl, rfl, hrel⟩ := hJ pre _ post rfl
  exact hrel.built

/--
Whatever preimage the service releases to a Provider, the message passes the filter of the
Provider's subscription, and the matcher refuses it for every query id and request event id.
-/
theorem release_never_matched (hN : N.Lawful) (cfg : Config N) (preimages : JsMap String String)
    {G : CallState Tables Pending → CallAction Request (Answer × Moment) → Prop} {tr : List Event}
    {s : CallState Tables Pending}
    (hrun : Run (oracleService cfg).machine G (initialState preimages) tr s)
    (provider : Keypair N) {call : Nat} {queryId hash preimage : String} {dm : Protocol.Event}
    (hreleased : .preimagePublished call queryId provider.publicKey hash preimage dm ∈ tr) :
    preimageFilter N provider cfg.identity.publicKey dm = true ∧
      ∀ queryId' requestEventId,
        matchPreimage N cfg.text provider cfg.identity.publicKey queryId' requestEventId dm
          = none := by
  obtain ⟨m, hm⟩ := built_of_published hrun hreleased
  exact ⟨preimageFilter_buildPreimageDM hm, matchPreimage_buildPreimageDM hN hm⟩

/-- The released message of a served request, which no ids make acceptable. -/
theorem release_never_matched_plain :
    ∃ tr s call hash dm,
      Run (oracleService plainConfig).machine AnyStep (initialState .empty) tr s ∧
      .preimagePublished call "q" "pk" hash "s" dm ∈ tr ∧
      ∀ queryId requestEventId, matchPreimage plainNostr .safeIntegers (plainKeypair "pk") "oracle"
        queryId requestEventId dm = none := by
  obtain ⟨tr, s, call, hash, dm, hrun, hmem⟩ := exists_release (G := AnyStep)
    (fun _ _ _ => trivial)
  exact ⟨tr, s, call, hash, dm, hrun, hmem,
    (release_never_matched plainNostr_lawful plainConfig .empty hrun (plainKeypair "pk") hmem).2⟩

/-- The Oracle releases preimage `s` for query `q` of request event `e` to the Provider `pk`; the
Provider, waiting for just these ids, does not take it. -/
theorem release_dropped :
    ∃ tr s call hash dm,
      Run (oracleService plainConfig).machine AnyStep (initialState .empty) tr s ∧
      .preimagePublished call "q" "pk" hash "s" dm ∈ tr ∧
      preimageFilter plainNostr (plainKeypair "pk") "oracle" dm = true ∧
      matchPreimage plainNostr .safeIntegers (plainKeypair "pk") "oracle" "q" "e" dm ≠
        some "s" := by
  obtain ⟨tr, s, call, hash, dm, hrun, hmem⟩ := exists_release (G := AnyStep)
    (fun _ _ _ => trivial)
  obtain ⟨m, hm⟩ := built_of_published hrun hmem
  have hbuilt : buildPreimageDM plainNostr .safeIntegers plainConfig.identity
      (plainKeypair "pk").publicKey "q" "s" m = some dm := hm
  have hnone := matchPreimage_buildPreimageDM plainNostr_lawful hbuilt "q" "e"
  refine ⟨tr, s, call, hash, dm, hrun, hmem, preimageFilter_buildPreimageDM hbuilt, fun hsome => ?_⟩
  exact absurd (hnone.symm.trans hsome) (by simp)

/-! ## Addressees -/

structure Envelope (oracle : Keypair N) (providerPubkey : String) (dm : Protocol.Event) : Prop where
  kind : dm.kind = kindDirectMessage
  pubkey : dm.pubkey = oracle.publicKey
  tags : dm.tags = [["p", providerPubkey]]

theorem envelope_of_built {payload : List (String × Json)}
    (h : buildOracleDM N T oracle providerPubkey payload m = some dm) :
    Envelope oracle providerPubkey dm := by
  obtain ⟨ciphertext, -, rfl⟩ := Option.map_eq_some_iff.mp h
  exact ⟨rfl, oracle.derived, rfl⟩

/-- What is published for a Provider is addressed to it. -/
def Event.Addressed (cfg : Config N) : Event → Prop
  | .preimagePublished _ _ providerPubkey _ _ dm | .signaturePublished _ _ providerPubkey _ dm =>
    Envelope cfg.identity providerPubkey dm
  | _ => True

def Pending.Addressed (cfg : Config N) : Pending → Prop
  | .delivering d _ _ dm _ | .retrying d _ _ dm _ => Envelope cfg.identity d.providerPubkey dm
  | _ => True

/-- What is released is addressed to its Provider, also when it is sent once more. -/
structure AddressedTurn (cfg : Config N) (turn : Turn) : Prop where
  events : ∀ e ∈ turn.events, e.Addressed cfg
  pending : ∀ p, turn.pending = some p → p.Addressed cfg

section

variable {cfg : Config N} {t : Tables} {call : Nat} {o : Origin} {d : Delivery}
  {events : List Event} {turn : Turn} {p : Pending}

theorem addressed_ended (h : ∀ e ∈ events, e.Addressed cfg) :
    AddressedTurn cfg { shared := t, events := events } :=
  ⟨h, fun _ hp => by cases hp⟩

theorem addressed_suspended (h : ∀ e ∈ events, e.Addressed cfg) (hp : p.Addressed cfg) :
    AddressedTurn cfg { shared := t, events := events, pending := some p } :=
  ⟨h, fun q hq => by
    cases hq
    exact hp⟩

theorem Opens.addressed (h : Opens cfg t call o d events) : ∀ e ∈ events, e.Addressed cfg := by
  cases h <;> simp [Event.Addressed]

theorem Opens.addressed_append {e : Event} (h : Opens cfg t call o d events)
    (he : e.Addressed cfg) : ∀ e' ∈ events ++ [e], e'.Addressed cfg :=
  List.forall_mem_append.mpr ⟨h.addressed, List.forall_mem_singleton.mpr he⟩

theorem Outcome.addressed (h : Outcome cfg t call o turn)
    (ho : ∀ p answer, o = .resume p answer → p.Addressed cfg) : AddressedTurn cfg turn := by
  cases h with
  | repeated _ x | responded _ _ _ x | watches _ x =>
    cases x <;> exact addressed_ended (by simp [Event.Addressed])
  | throws h => exact addressed_ended h.addressed
  | rejects h => exact addressed_suspended (h.addressed_append trivial) trivial
  | signed h hdm =>
    exact addressed_suspended (h.addressed_append (envelope_of_built hdm)) trivial
  | verifies h | verifiesFrost h | signs h => exact addressed_suspended h.addressed trivial
  | attempts _ hdm =>
    have henvelope := envelope_of_built hdm
    exact addressed_suspended (List.forall_mem_singleton.mpr henvelope) henvelope
  | retries =>
    have henvelope := ho _ _ rfl
    exact addressed_suspended (List.forall_mem_singleton.mpr henvelope) henvelope
  | undelivered _ hp =>
    have henvelope := ho _ _ rfl
    refine addressed_suspended (by simp [Event.Addressed]) ?_
    rcases hp with rfl | ⟨outcome, rfl⟩
    · exact henvelope
    · trivial
  | silent | returned | settled => exact addressed_ended (by simp [Event.Addressed])
  | _ => exact addressed_suspended (by simp [Event.Addressed]) trivial

theorem addressed_begin (request : Request) : AddressedTurn cfg (begin cfg t call request) :=
  (outcome_begin request).addressed fun _ _ h => by cases h

theorem addressed_resume {b : Answer × Moment} (hp : p.Addressed cfg)
    (h : resume cfg t call p b = some turn) : AddressedTurn cfg turn := by
  refine (outcome_resume h).addressed fun q answer ho => ?_
  cases ho
  exact hp

end

end Anchr.Oracle
