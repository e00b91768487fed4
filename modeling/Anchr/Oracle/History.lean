import Anchr.Oracle.Steps

/-!
# What the history of the Oracle service explains

Every message of the service is explained by what happened before it, and so is every suspended
call.
-/

namespace Anchr.Oracle

open Infra Protocol Requests

variable {N : NostrTools} (cfg : Config N)

/-! ## Relations -/

/-- The service has issued the hash for the query id. -/
def Issued (tr : List Event) (queryId hash : String) : Prop :=
  ∃ call, Event.hashIssued call queryId hash ∈ tr

/-- The delivery is for a result event that passed those checks in the same call. -/
def AcceptedFor (tr : List Event) (call : Nat) (d : Delivery) : Prop :=
  ∃ entry event payload, Event.resultAccepted call d.queryId entry event payload ∈ tr ∧
    Accepts cfg entry event payload ∧ d.query = entry.query ∧
    d.result = oracleResponseToResult cfg.resolveSchemaEvidence entry.query payload ∧
    d.providerPubkey = event.pubkey

/-- Where a delivery comes from; `C` says which callers occur. -/
structure Originates (C : Caller → Prop) (tr : List Event) (call : Nat) (d : Delivery) : Prop where
  caller : C d.caller
  accepted : d.caller = .handleResponseEvent → AcceptedFor cfg tr call d

/-- What has happened when the preimage under a hash is about to be published. `P` is what is known
of the store's entries. -/
structure Released (C : Caller → Prop) (P : String → String → Prop) (tr : List Event) (call : Nat)
    (d : Delivery) (hash preimage : String) (dm : Protocol.Event) : Prop where
  origin : Originates cfg C tr call d
  quorum : d.query.quorum = none
  verified : Event.verified call d.query d.result true ∈ tr
  issued : Issued tr d.queryId hash
  read : Event.preimageRead call hash (some preimage) ∈ tr
  entry : P hash preimage
  built : ∃ m, buildPreimageDM N cfg.text cfg.identity d.providerPubkey d.queryId preimage m
    = some dm

structure SharedExplained (P : String → String → Prop) (tr : List Event) (t : Tables) : Prop where
  queryHashMap : ∀ q h, t.queryHashMap.get? q = some h → Issued tr q h
  issued : ∀ q h, t.issued.get? q = some h → Issued tr q h
  preimages : ∀ h p, t.preimages.get? h = some p → P h p

def CallExplained (C : Caller → Prop) (P : String → String → Prop) (tr : List Event) (call : Nat) :
    Pending → Prop
  | .issuing _ queryId hash => Issued tr queryId hash
  | .verifying d => Originates cfg C tr call d ∧ d.query.quorum = none
  | .reading d detail hash preimage =>
    (Originates cfg C tr call d ∧ d.query.quorum = none) ∧
    Event.verified call d.query d.result detail.passed ∈ tr ∧ Issued tr d.queryId hash ∧
    Event.preimageRead call hash preimage ∈ tr ∧ ∀ p, preimage = some p → P hash p
  | .delivering d hash preimage dm _ =>
    Released cfg C P tr call d hash preimage dm ∧
    Event.preimagePublished call d.queryId d.providerPubkey hash preimage dm ∈ tr
  | .retrying d hash preimage dm _ => Released cfg C P tr call d hash preimage dm
  | _ => True

def EventExplained (C : Caller → Prop) (P : String → String → Prop) (tr : List Event) :
    Event → Prop
  | .hashReturned _ queryId hash | .hashSent _ queryId hash _ _ => Issued tr queryId hash
  | .preimagePublished call queryId providerPubkey hash preimage dm =>
    ∃ d, d.queryId = queryId ∧ d.providerPubkey = providerPubkey ∧
      Released cfg C P tr call d hash preimage dm
  | .preimageDeleted call hash =>
    ∃ queryId providerPubkey preimage dm successes,
      Event.preimagePublished call queryId providerPubkey hash preimage dm ∈ tr ∧
      Event.attemptAnswered call dm successes ∈ tr ∧ successes ≠ []
  | _ => True

/-- The requests that let only the callers of `C` occur. -/
def Request.Admitted (C : Caller → Prop) : Request → Prop
  | .responseEvent .. => C .handleResponseEvent
  | .verifyAndDeliver .. | .verifyAndDeliverWithFrost .. => C .verifyAndDeliver
  | _ => True

/-! ## Longer histories -/

section

variable {cfg} {C : Caller → Prop} {P : String → String → Prop} {tr evs : List Event} {call : Nat}
  {d : Delivery} {t : Tables}

theorem Issued.mono {q h : String} (hi : Issued tr q h) : Issued (tr ++ evs) q h := by
  obtain ⟨c, hc⟩ := hi
  exact ⟨c, List.mem_append_left _ hc⟩

theorem Originates.mono (h : Originates cfg C tr call d) : Originates cfg C (tr ++ evs) call d := by
  refine ⟨h.caller, fun hc => ?_⟩
  obtain ⟨entry, event, payload, hmem, hrest⟩ := h.accepted hc
  exact ⟨entry, event, payload, List.mem_append_left _ hmem, hrest⟩

theorem Released.mono {hash preimage : String} {dm : Protocol.Event}
    (h : Released cfg C P tr call d hash preimage dm) :
    Released cfg C P (tr ++ evs) call d hash preimage dm where
  origin := h.origin.mono
  quorum := h.quorum
  verified := List.mem_append_left _ h.verified
  issued := h.issued.mono
  read := List.mem_append_left _ h.read
  entry := h.entry
  built := h.built

theorem SharedExplained.mono (h : SharedExplained P tr t) : SharedExplained P (tr ++ evs) t where
  queryHashMap q hash hq := (h.queryHashMap q hash hq).mono
  issued q hash hq := (h.issued q hash hq).mono
  preimages := h.preimages

theorem CallExplained.mono {p : Pending} (h : CallExplained cfg C P tr call p) :
    CallExplained cfg C P (tr ++ evs) call p := by
  cases p with
  | issuing => exact Issued.mono h
  | verifying => exact ⟨h.1.mono, h.2⟩
  | reading =>
    obtain ⟨⟨horigin, hquorum⟩, hverified, hissued, hread, hentry⟩ := h
    exact ⟨⟨horigin.mono, hquorum⟩, List.mem_append_left _ hverified, hissued.mono,
      List.mem_append_left _ hread, hentry⟩
  | delivering => exact ⟨h.1.mono, List.mem_append_left _ h.2⟩
  | retrying => exact Released.mono h
  | _ => trivial

/-! ## Turns that release nothing -/

def Event.Plain : Event → Prop
  | .hashReturned .. | .hashSent .. | .preimagePublished .. | .preimageDeleted .. => False
  | _ => True

variable {e : Event}

theorem Event.Plain.explained (h : e.Plain) (tr : List Event) :
    EventExplained cfg C P tr e := by
  cases e <;> first | exact h.elim | trivial

theorem justifiedAfter_plain {evs : List Event} (h : ∀ e ∈ evs, e.Plain) (tr : List Event) :
    JustifiedAfter (EventExplained cfg C P) tr evs := by
  induction evs generalizing tr with
  | nil => trivial
  | cons e evs ih =>
    exact ⟨(h e List.mem_cons_self).explained tr,
      ih (fun e' he' => h e' (List.mem_cons_of_mem _ he')) _⟩

end

abbrev TurnExplained (C : Caller → Prop) (P : String → String → Prop) (tr : List Event) (call : Nat)
    (turn : Turn) : Prop :=
  turn.Explained (SharedExplained P) (CallExplained cfg C P) (EventExplained cfg C P) tr call

section

variable {cfg} {C : Caller → Prop} {P : String → String → Prop} {tr : List Event} {call : Nat}
  {d : Delivery} {t : Tables}

variable {turn : Turn} {p : Pending} {o : Origin} {events : List Event}

theorem explained_plain (hI : SharedExplained P tr turn.shared) (hev : ∀ e ∈ turn.events, e.Plain)
    (hp : ∀ p, turn.pending = some p → CallExplained cfg C P (tr ++ turn.events) call p) :
    TurnExplained cfg C P tr call turn :=
  ⟨justifiedAfter_plain hev tr, hI.mono, hp⟩

theorem explained_ended (hI : SharedExplained P tr t) (hev : ∀ e ∈ events, e.Plain) :
    TurnExplained cfg C P tr call { shared := t, events := events } :=
  explained_plain hI hev (fun _ hp => by cases hp)

theorem explained_suspended (hI : SharedExplained P tr t) (hev : ∀ e ∈ events, e.Plain)
    (hp : CallExplained cfg C P (tr ++ events) call p) :
    TurnExplained cfg C P tr call { shared := t, events := events, pending := some p } := by
  refine explained_plain hI hev fun q hq => ?_
  cases hq
  exact hp

/-! ## Every turn -/

theorem SharedExplained.watched {w : JsMap String WatchedQuery} (h : SharedExplained P tr t) :
    SharedExplained P tr { t with watched := w } :=
  ⟨h.queryHashMap, h.issued, h.preimages⟩

variable (cfg C P tr call) in
/-- What the origin of a turn rests on. -/
def Origin.Explained : Origin → Prop
  | .begin r => r.Admitted C
  | .resume p _ => CallExplained cfg C P tr call p

theorem Opens.plain (h : Opens cfg t call o d events) : ∀ e ∈ events, e.Plain := by
  cases h <;> simp [Event.Plain]

theorem Opens.plain_append {e : Event} (h : Opens cfg t call o d events) (he : e.Plain) :
    ∀ e' ∈ events ++ [e], e'.Plain :=
  List.forall_mem_append.mpr ⟨h.plain, List.forall_mem_singleton.mpr he⟩

theorem Opens.originates {r : Request} (h : Opens cfg t call (.begin r) d events)
    (hr : r.Admitted C) : Originates cfg C (tr ++ events) call d := by
  cases h with
  | result _ haccepts => exact ⟨hr, fun _ => ⟨_, _, _, by simp [deliveryOf], haccepts, rfl, rfl, rfl⟩⟩
  | direct hsame =>
    refine ⟨?_, fun h => by cases h⟩
    rcases hsame with rfl | rfl <;> exact hr

theorem explained_hashSent {queryId hash sender : String} {dm : Option Protocol.Event}
    (hI : SharedExplained P tr t) (hissued : Issued tr queryId hash) :
    TurnExplained cfg C P tr call
      { shared := t, events := dm.toList.map (.hashSent call queryId hash sender) } := by
  cases dm with
  | none => exact explained_ended hI (by simp)
  | some dm => exact ⟨⟨hissued, trivial⟩, hI.mono, fun _ hp => by cases hp⟩

theorem explained_attempt {hash preimage : String} {dm : Protocol.Event} {n : Nat}
    (hI : SharedExplained P tr t) (h : Released cfg C P tr call d hash preimage dm) :
    TurnExplained cfg C P tr call (attempt t call d [] hash preimage dm n) := by
  refine ⟨⟨⟨d, rfl, rfl, h⟩, trivial⟩, hI.mono, fun p hp => ?_⟩
  cases hp
  exact ⟨h.mono, List.mem_concat_self⟩

theorem Outcome.explained (h : Outcome cfg t call o turn) (hP : ∀ p, P (cfg.sha256 p) p)
    (hI : SharedExplained P tr t) (ho : o.Explained cfg C P tr call) :
    TurnExplained cfg C P tr call turn := by
  cases h with
  | silent => exact explained_ended hI (by simp)
  | found hhash => exact explained_suspended hI (by simp) (hI.queryHashMap _ _ hhash).mono
  | creates =>
    refine explained_suspended ⟨hI.queryHashMap, hI.issued, fun h p hp => ?_⟩
      (by simp [Event.Plain]) trivial
    -- the new entry is the drawn preimage under its own hash
    rcases JsMap.get?_of_set hp with ⟨rfl, rfl⟩ | hold
    · exact hP _
    · exact hI.preimages h p hold
  | created _ queryId hash =>
    have hissued : Issued (tr ++ [Event.hashIssued call queryId hash]) queryId hash :=
      ⟨call, List.mem_concat_self⟩
    refine ⟨⟨trivial, trivial⟩, ⟨fun q h hq => ?_, fun q h hq => (hI.issued q h hq).mono,
      hI.preimages⟩, fun p hp => ?_⟩
    · rcases JsMap.get?_of_set hq with ⟨rfl, rfl⟩ | hold
      · exact hissued
      · exact (hI.queryHashMap q h hold).mono
    · cases hp
      exact hissued
  | returned => exact ⟨⟨ho, trivial⟩, hI.mono, fun _ hp => by cases hp⟩
  | repeated hissued => exact explained_hashSent hI (hI.issued _ _ hissued)
  | responded =>
    refine explained_hashSent ⟨hI.queryHashMap, fun q h hq => ?_, hI.preimages⟩ ho
    rcases JsMap.get?_of_set hq with ⟨rfl, rfl⟩ | hold
    · exact ho
    · exact hI.issued q h hold
  | watches _ offer =>
    refine explained_ended hI.watched ?_
    cases offer <;> simp [Event.Plain]
  | throws h => exact explained_ended hI h.plain
  | rejects h | signed h => exact explained_suspended hI (h.plain_append trivial) trivial
  | verifies h hquorum => exact explained_suspended hI h.plain ⟨h.originates ho, hquorum⟩
  | verifiesFrost h | signs h => exact explained_suspended hI h.plain trivial
  | reads _ hhash =>
    refine explained_suspended hI (by simp [Event.Plain]) ?_
    exact ⟨⟨ho.1.mono, ho.2⟩, by simp, (hI.queryHashMap _ _ hhash).mono, by simp, hI.preimages _⟩
  | attempts hpassed hdm =>
    obtain ⟨⟨horigin, hquorum⟩, hverified, hissued, hread, hentry⟩ := ho
    rw [hpassed] at hverified
    exact explained_attempt hI
      ⟨horigin, hquorum, hverified, hissued, hread, hentry _ rfl, _, hdm⟩
  | retries => exact explained_attempt hI ho
  | delivered hne =>
    -- the deletion follows the answer it is explained by
    refine ⟨⟨trivial, ⟨_, _, _, _, _, List.mem_append_left _ ho.2,
      List.mem_concat_self, hne⟩, trivial⟩,
      ⟨fun q hash' hq => (hI.queryHashMap q hash' hq).mono,
        fun q hash' hq => (hI.issued q hash' hq).mono, fun hash' p hp => ?_⟩, fun p hp => ?_⟩
    · exact hI.preimages hash' p (JsMap.get?_of_delete hp)
    · cases hp
      trivial
  | undelivered _ hp =>
    refine explained_suspended hI (by simp [Event.Plain]) ?_
    rcases hp with rfl | ⟨outcome, rfl⟩
    · exact Released.mono ho.1
    · trivial
  | deleted =>
    refine explained_suspended ⟨fun q hash hq => ?_, hI.issued, hI.preimages⟩ (by simp) trivial
    exact hI.queryHashMap q hash (JsMap.get?_of_delete hq)
  | published => exact explained_suspended hI (by simp) trivial
  | settled =>
    refine explained_ended ?_ (by simp [Event.Plain])
    split
    next => exact hI.watched
    next => exact hI

theorem explains (hP : ∀ p, P (cfg.sha256 p) p) :
    (oracleService cfg).Explains (Request.Admitted C) (SharedExplained P) (CallExplained cfg C P)
      (EventExplained cfg C P) where
  mono := CallExplained.mono
  begin hI _ _ hr := (outcome_begin _).explained hP hI hr
  resume hI h hresume := (outcome_resume hresume).explained hP hI h

theorem explained_of_run {preimages : JsMap String String}
    {G : CallState Tables Pending → CallAction Request (Answer × Moment) → Prop}
    {s : CallState Tables Pending} (hP : ∀ p, P (cfg.sha256 p) p)
    (hstore : ∀ h p, preimages.get? h = some p → P h p)
    (hG : ∀ s x, G s (.begin x) → x.Admitted C)
    (hrun : Run (oracleService cfg).machine G (initialState preimages) tr s) :
    Justified (EventExplained cfg C P) tr := by
  have hstart : SharedExplained P [] (initialState preimages).shared :=
    ⟨by simp [initialState], by simp [initialState], hstore⟩
  exact ((explains hP).run hG hstart rfl hrun).1

theorem Request.admitted_any (r : Request) : r.Admitted fun _ => True := by
  cases r <;> trivial

end

/-! ## A release -/

theorem exists_release
    {G : CallState Tables Pending → CallAction Request (Answer × Moment) → Prop}
    (hG : ∀ a ∈ hashActions 0 "s" ++ deliveryActions 1, ∀ s, G s a) :
    ∃ tr s call hash dm, Run (oracleService plainConfig).machine G (initialState .empty) tr s ∧
      .preimagePublished call "q" "pk" hash "s" dm ∈ tr := by
  have hexec : ((oracleService plainConfig).machine.exec (initialState .empty)
      (hashActions 0 "s" ++ deliveryActions 1)).map (fun r => r.2.filterMap Event.release)
      = some [("q", "pk", "s")] := by decide +kernel
  obtain ⟨tr, s, hrun, hrel⟩ := Run.exists_of_exec (Machine.admits_of_forall _ _ _ hG) hexec
  have hmem : ("q", "pk", "s") ∈ tr.filterMap Event.release := by
    rw [hrel]
    exact List.mem_singleton_self _
  obtain ⟨e, he, heq⟩ := List.mem_filterMap.mp hmem
  cases e with
  | preimagePublished call queryId providerPubkey hash preimage dm =>
    cases heq
    exact ⟨tr, s, call, hash, dm, hrun, he⟩
  | _ => cases heq

end Anchr.Oracle
