import Anchr.Infra.Decisions
import Anchr.Provider.Properties.VerifiedLock

/-!
# A request that is delivered again

`serve` begins a job for every request event that a relay delivers. Nothing tells it that it has
begun one for the same event before.
-/

namespace Anchr.Provider

open Infra Protocol

/-! ## What is done for a request -/

def Event.starts (requestEventId : String) (call : Nat) : Event → Bool
  | .jobStarted c event => c = call && event.id = requestEventId
  | _ => false

/-- What the Provider does for a request event, in all jobs for it. -/
def requestEvents (requestEventId : String) (tr : List Event) : List Event :=
  tr.filter fun e => tr.any (Event.starts requestEventId e.callOf)

/-- An offer is published. -/
def Event.isOffer : Event → Bool
  | .offerPublished .. => true
  | _ => false

/-- A result is published. -/
def Event.isResult : Event → Bool
  | .resultPublished .. => true
  | _ => false

def Event.offer : Event → Option (String × Nat)
  | .offerPublished call _ offerEvent => some ((findTagValue offerEvent "e").getD "", call)
  | _ => none

section

variable {N : NostrTools} {cfg : JobContext N}

def Pending.phase (p : Pending cfg) : Option (String × Phase Nat) :=
  some (p.job.event.id, if p.stage ≤ 2 then .undecided else .closed)

variable (cfg)

/-- The handler is asked for an offer: the event is a request that names an Oracle of the Provider
and a schema that it can serve. -/
def Heeds (event : Protocol.Event) : Prop :=
  ∃ payload, parseQueryRequestEvent cfg.text event = some payload ∧
    canOfferForRequest cfg.oracles payload.oraclePubkey = true ∧
    cfg.isSchemaUri payload.schema = true ∧
    (cfg.proofGenerators = [] ∨ (proofGeneratorFor cfg payload.schema).isSome = true)

/-- The guard: a request that the Provider heeds is delivered when no job for the same event is
under way and no offer for it has been published. -/
abbrev DeliversFresh :
    CallState Tables (Pending cfg) × List Event → CallAction Protocol.Event (Answer × Draws) →
      Prop :=
  TakesUpFresh Pending.phase Event.offer fun _ event requestEventId =>
    Heeds cfg event ∧ requestEventId = event.id

variable {cfg}

/-! ## Offers -/

theorem offer_of_built {call : Nat} (job : Offered cfg) :
    (Event.offerPublished call job.amountSats job.offerEvent).offer = some (job.event.id, call) := by
  obtain ⟨m, hbuilt⟩ := job.built
  rw [hbuilt]
  rfl

variable {e : Event} {turn : Turn cfg} {o : Option (Pending cfg)} {requestEventId : String}
  {tr : List Event}

theorem offer_eq_none_of_stage (h : 2 < e.stage) : e.offer = none := by
  cases e with
  | offerPublished => exact absurd h (Nat.lt_irrefl 2)
  | _ => rfl

variable {p : Pending cfg} {job : Job cfg} {event : Protocol.Event} {evs : List Event}
  {s : CallState Tables (Pending cfg)}

theorem pending_of_stage_le (h : p.stage ≤ 2) : ∃ job, p = .handling job := by
  cases p with
  | handling job => exact ⟨job, rfl⟩
  | _ => exact absurd h (by simp [Pending.stage])

variable {t : Tables} {call : Nat}

theorem moves_handlerReturned {offer : Option ProviderOffer} {draws : Draws} :
    (handlerReturned t call job offer draws).Moves Pending.phase Event.offer job.event.id
      .undecided := by
  have hended : (ended t [] : Turn cfg).Moves Pending.phase Event.offer job.event.id .undecided :=
    ⟨[], none, .ended _, rfl, rfl⟩
  unfold handlerReturned
  split
  next => exact hended
  next amountSats _ =>
    split
    next => exact hended
    split
    next => exact ⟨[call], some .closed, .first (.inr rfl), rfl, rfl⟩
    next => exact hended

/-- The offer is made, and no turn makes another. -/
theorem moves_of_resume {b : Answer × Draws} (hstage : 2 < p.stage)
    (hresume : resume cfg t call p b = some turn) :
    turn.Moves Pending.phase Event.offer p.job.event.id .closed := by
  have h := advances_of_resume hresume
  have hquiet : turn.events.filterMap Event.offer = [] := by
    refine List.filterMap_eq_nil_iff.mpr fun e he => ?_
    exact offer_eq_none_of_stage (Nat.lt_of_lt_of_le hstage (h.after e he))
  cases hpending : turn.pending with
  | none => exact ⟨[], none, .ended _, hquiet, by rw [hpending]; rfl⟩
  | some q =>
    have hevent : q.job.event = p.job.event := h.about q hpending
    refine ⟨[], some .closed, .wait _, hquiet, ?_⟩
    have hclosed : ¬q.stage ≤ 2 := Nat.not_le.mpr (Nat.lt_of_lt_of_le hstage (h.next q hpending).1)
    rw [hpending, Option.bind_some, Pending.phase, if_neg hclosed, hevent]
    rfl

theorem heeds_of_handling (h : (handleJob cfg t call event).pending = some p) :
    Heeds cfg event := by
  unfold handleJob at h
  split at h
  next => cases h
  next payload hparsed =>
    split at h
    next horacle =>
      split at h
      next => cases h
      next hproceeds =>
        rw [Bool.or_eq_true, not_or, Bool.and_eq_true, not_and_or] at hproceeds
        refine ⟨payload, hparsed, horacle, by simpa using hproceeds.1, ?_⟩
        rcases hproceeds.2 with hnone | hsome
        · exact .inl (by simpa using hnone)
        · exact .inr (by simpa [Option.isSome_iff_ne_none] using hsome)
    next => cases h

variable (cfg)

/-- A job publishes its offer under the id of its request event. -/
theorem decides : (providerService cfg).Decides Pending.phase Event.offer
    fun _ event requestEventId => Heeds cfg event ∧ requestEventId = event.id where
  begin t call event := by
    rcases handleJob_cases cfg t call event with hignored | ⟨job, request, hevent, hhandling⟩
    · refine .inr ?_
      show (handleJob cfg t call event).Silent _ _
      rw [hignored]
      exact ⟨rfl, rfl⟩
    · have hheeds : Heeds cfg event := heeds_of_handling (congrArg CallTurn.pending hhandling)
      refine .inl ⟨event.id, ⟨hheeds, rfl⟩, ?_⟩
      show (handleJob cfg t call event).Moves _ _ _ _
      rw [hhandling, ← hevent]
      exact ⟨[], some .undecided, .wait _, rfl, rfl⟩
  pass {t call p b turn topic ph} hresume hphase := by
    cases hphase
    by_cases hstage : p.stage ≤ 2
    · rw [if_pos hstage]
      obtain ⟨job, rfl⟩ := pending_of_stage_le hstage
      obtain ⟨answer, draws⟩ := b
      cases answer with
      | threw =>
        cases hresume
        exact ⟨[], none, .ended _, rfl, rfl⟩
      | offered offer =>
        cases hresume
        exact moves_handlerReturned
      | _ => cases hresume
    · rw [if_neg hstage]
      exact moves_of_resume (Nat.not_le.mp hstage) hresume
  silent _ hphase := by cases hphase

variable {cfg}

/-! ## Jobs for one request -/

theorem offer_of_known (hstage : 2 < p.stage) (h : p.Known call evs) :
    ∃ e ∈ evs, e.offer = some (p.job.event.id, call) := by
  cases p with
  | handling => exact absurd hstage (Nat.lt_irrefl 2)
  | publishingOffer job | writingOffer job | awaitingSelection job =>
    exact ⟨_, h, offer_of_built job⟩
  | requestingHash job | publishingHash job | awaitingHash job =>
    exact ⟨_, h.1, offer_of_built job.toOffered⟩
  | verifyingLock job => exact ⟨_, h.1.1, offer_of_built job.toOffered⟩
  | producing job => exact ⟨_, h.1.1.1, offer_of_built job.toOffered⟩
  | publishingResult job | writingResult job | awaitingPreimage job | redeeming job
  | writingRedeemed job => exact ⟨_, h.1.1.1, offer_of_built job.toOffered⟩

theorem offer_of_handling {b : Answer × Draws}
    (h : resume cfg t call (.handling job) b = some turn) :
    ∀ e ∈ turn.events, e.offer = some (job.event.id, call) := by
  obtain ⟨answer, draws⟩ := b
  intro e he
  cases answer with
  | threw =>
    cases h
    cases he
  | offered offer =>
    cases h
    simp only [handlerReturned] at he
    split at he
    next => cases he
    split at he
    next => cases he
    split at he
    next =>
      obtain rfl := List.mem_singleton.mp he
      rfl
    next => cases he
  | _ => cases h

/-- Whatever a job does from its offer on, it has made the offer. By induction over its turns. -/
theorem offered_of_trace (h : (providerService cfg).Trace call event evs o) :
    ∀ e ∈ evs, 2 ≤ e.stage → ∃ e' ∈ evs, e'.offer = some (event.id, call) := by
  induction h with
  | begin t =>
    intro e he hstage
    have hearly : e.stage < 2 := by
      rcases handleJob_cases cfg t call event with hignored | ⟨job, request, -, hhandling⟩
      · change e ∈ (handleJob cfg t call event).events at he
        rw [hignored] at he
        obtain rfl := List.mem_singleton.mp he
        exact Nat.zero_lt_two
      · change e ∈ (handleJob cfg t call event).events at he
        rw [hhandling] at he
        rcases List.mem_pair.mp he with rfl | rfl
        · exact Nat.zero_lt_two
        · exact Nat.one_lt_two
    exact absurd hstage (Nat.not_le.mpr hearly)
  | @resume evs p t b turn htrace hresume ih =>
    intro e he hstage
    have hprogress := progress_of_trace htrace
    have hevent : p.job.event = event := hprogress.about p rfl
    rcases List.mem_append.mp he with hold | hnew
    · obtain ⟨e', he', hoffer⟩ := ih e hold hstage
      exact ⟨e', List.mem_append_left _ he', hoffer⟩
    · by_cases hoffered : 2 < p.stage
      · obtain ⟨e', he', hoffer⟩ := offer_of_known hoffered (hprogress.suspended p rfl).2
        exact ⟨e', List.mem_append_left _ he', hevent ▸ hoffer⟩
      · obtain ⟨job, rfl⟩ := pending_of_stage_le (Nat.le_of_not_lt hoffered)
        exact ⟨e, he, hevent ▸ offer_of_handling hresume e hnew⟩

theorem event_of_starts (h : (providerService cfg).Trace call event evs o) (he : e ∈ evs)
    (hstarts : e.starts requestEventId call = true) :
    event.id = requestEventId := by
  cases e with
  | jobStarted c event' =>
    obtain ⟨-, hid⟩ : c = call ∧ event'.id = requestEventId := by simpa [Event.starts] using hstarts
    obtain ⟨rest, rfl⟩ := List.head?_eq_some_iff.mp (started_of_trace h)
    rcases List.mem_cons.mp he with heq | hrest
    · cases heq
      exact hid
    · -- a job begins once, since its stages go up
      have hlater := (List.pairwise_cons.mp (progress_of_trace h).ordered).1 _
        (List.mem_map_of_mem hrest)
      exact absurd hlater (Nat.lt_irrefl 0)
  | _ => cases hstarts

/-- The events of the jobs for a request that are counted are events of one job. -/
theorem countP_requestEvents_le {P : Event → Bool}
    (hone : ∀ e ∈ requestEvents requestEventId tr, ∀ e' ∈ requestEvents requestEventId tr,
      P e = true → P e' = true → e.callOf = e'.callOf)
    (hown : ∀ call, (ownEvents Event.callOf call tr).countP P ≤ 1) :
    (requestEvents requestEventId tr).countP P ≤ 1 := by
  by_cases hnone : ∃ e ∈ requestEvents requestEventId tr, P e = true
  · obtain ⟨e, he, hP⟩ := hnone
    calc (requestEvents requestEventId tr).countP P
        = (requestEvents requestEventId tr).countP fun e' => P e' && e'.callOf = e.callOf := by
          refine List.countP_congr fun e' he' => ?_
          simp only [Bool.and_eq_true, decide_eq_true_eq, iff_self_and]
          exact fun hP' => hone e' he' e he hP' hP
      _ ≤ tr.countP fun e' => P e' && e'.callOf = e.callOf := by
          rw [requestEvents, List.countP_filter]
          refine List.countP_mono_left fun e' _ he' => ?_
          exact (Bool.and_eq_true _ _ ▸ he').1
      _ = (ownEvents Event.callOf e.callOf tr).countP P := by rw [ownEvents, List.countP_filter]
      _ ≤ 1 := hown e.callOf
  · have hzero : (requestEvents requestEventId tr).countP P = 0 :=
      List.countP_eq_zero.mpr fun e he hP => hnone ⟨e, he, hP⟩
    rw [hzero]
    exact Nat.zero_le 1

section

variable {store : JsMap String String} {tr : List Event} {s : CallState Tables (Pending cfg)}

variable {P : Event → Bool} {n : Nat}

theorem countP_ownEvents_le
    (hrun : Run (providerService cfg).machine AnyStep (initialState cfg store) tr s)
    (hP : ∀ e, P e = true → e.stage = n) (call : Nat) :
    (ownEvents Event.callOf call tr).countP P ≤ 1 := by
  have htraced := (names cfg).traced_of_run rfl rfl hrun
  by_cases hcall : call < s.nextCall
  · obtain ⟨event, htrace⟩ := htraced.begun call hcall
    exact (progress_of_trace htrace).countP_le_one hP
  · rw [(htraced.future call (Nat.le_of_not_lt hcall)).1]
    exact Nat.zero_le 1

theorem publishedOn_of_mem
    (hrun : Run (providerService cfg).machine AnyStep (initialState cfg store) tr s)
    {requestEventId : String} {e : Event} (he : e ∈ requestEvents requestEventId tr)
    (hstage : 2 ≤ e.stage) : PublishedOn Event.offer tr requestEventId e.callOf := by
  obtain ⟨hmem, hstarts⟩ := List.mem_filter.mp he
  obtain ⟨e₀, he₀, hstarts⟩ := List.any_eq_true.mp hstarts
  have hown : ∀ {e'}, e' ∈ tr → e'.callOf = e.callOf →
      e' ∈ ownEvents Event.callOf e.callOf tr := fun he' hcall =>
    List.mem_filter.mpr ⟨he', decide_eq_true hcall⟩
  have hcall₀ : e₀.callOf = e.callOf := by
    cases e₀ with
    | jobStarted => exact (Bool.and_eq_true _ _ ▸ hstarts).1 |> of_decide_eq_true
    | _ => cases hstarts
  obtain ⟨event, htrace⟩ := (names cfg).trace_of_run rfl rfl hrun
    ((names cfg).begun_of_mem rfl rfl hrun hmem)
  obtain ⟨e', he', hoffer⟩ := offered_of_trace htrace e (hown hmem rfl) hstage
  rw [event_of_starts htrace (hown he₀ hcall₀) hstarts] at hoffer
  exact ⟨e', (List.mem_filter.mp he').1, hoffer⟩

/-- Under the guard, the jobs for a request together do once what a job does after its offer. -/
theorem countP_requestEvents_le_one {s : CallState Tables (Pending cfg) × List Event}
    (h : Run (providerService cfg).machine.recorded (DeliversFresh cfg) (initialState cfg store, [])
      tr s) (requestEventId : String) (hn : 2 ≤ n) (hP : ∀ e, P e = true → e.stage = n) :
    (requestEvents requestEventId tr).countP P ≤ 1 := by
  have hrun := h.of_recorded
  refine countP_requestEvents_le (fun e he e' he' hPe hPe' => ?_) (countP_ownEvents_le hrun hP)
  have hpub := publishedOn_of_mem hrun he (hP e hPe ▸ hn)
  have hpub' := publishedOn_of_mem hrun he' (hP e' hPe' ▸ hn)
  exact (decides cfg).agree rfl h requestEventId _ _ hpub hpub'

end

/--
In every run, over any state store, where a request that the Provider heeds is delivered only when no
job for the same event is under way and no offer for it has been published: for each request event
id, the jobs for it together publish at most one offer, call `produce` at most once and publish at
most one result.
-/
theorem redelivery_tolerated (cfg : JobContext N) (store : JsMap String String) {tr : List Event}
    {s : CallState Tables (Pending cfg) × List Event}
    (h : Run (providerService cfg).machine.recorded (DeliversFresh cfg) (initialState cfg store, [])
      tr s) (requestEventId : String) :
    (requestEvents requestEventId tr).countP Event.isOffer ≤ 1 ∧
      (requestEvents requestEventId tr).countP Event.isProduceCall ≤ 1 ∧
      (requestEvents requestEventId tr).countP Event.isResult ≤ 1 := by
  refine ⟨countP_requestEvents_le_one h requestEventId (n := 2) (Nat.le_refl 2) ?_,
    countP_requestEvents_le_one h requestEventId (n := 8) (by omega) ?_,
    countP_requestEvents_le_one h requestEventId (n := 10) (by omega) ?_⟩
  all_goals
    intro e he
    cases e <;> first | rfl | cases he

/-! ## The same request twice -/

theorem deliversFresh_of_quiet (hcalls : s.calls.entries = [])
    (htr : tr.filterMap Event.offer = []) (event : Protocol.Event) :
    DeliversFresh cfg (s, tr) (.begin event) :=
  fun requestEventId _ => freshTopic_of_quiet hcalls htr requestEventId

section

variable (job : Job cfg) (hschema : cfg.isSchemaUri job.payload.schema = true)
  (hgenerators : cfg.proofGenerators = []) {amountSats : JsNumber}
  (hpositive : amountSats.le (.ofInt 0) = false)
  (hbudget : job.payload.maxAmountSats.lt amountSats = false) (draws : Draws)

include hschema hgenerators hpositive hbudget draws

theorem exists_two_offers :
    ∃ tr s, Run (providerService cfg).machine AnyStep (initialState cfg .empty) tr s ∧
      (requestEvents job.event.id tr).countP Event.isOffer = 2 := by
  obtain ⟨request₀, hbegin₀⟩ := handleJob_of_job job hschema hgenerators {} 0
  obtain ⟨request₁, hbegin₁⟩ := handleJob_of_job job hschema hgenerators {} 1
  obtain ⟨offered, -, -, hoffer⟩ := handlerReturned_of_offer hpositive hbudget draws
  have hdelivered : Run _ AnyStep (initialState cfg .empty) _ _ := Run.start.next trivial
    (CallService.step_begin (S := providerService cfg) hbegin₀)
  have hrun := ((hdelivered.next trivial (CallService.step_begin hbegin₁)).next
    (a := .resume 0 (.offered (some ⟨some amountSats⟩), draws)) trivial
    (CallService.step_resume rfl (congrArg some (hoffer {} 0)))).next
    (a := .resume 1 (.offered (some ⟨some amountSats⟩), draws)) trivial
    (CallService.step_resume rfl (congrArg some (hoffer {} 1)))
  refine ⟨_, _, hrun, ?_⟩
  simp [requestEvents, List.countP_cons, Event.starts, Event.callOf, Event.isOffer]

/-- A request is delivered twice, and the handler declines it the first time. The second job begins
when the first is over and nothing is published. -/
theorem exists_offer_after_decline :
    ∃ tr s, Run (providerService cfg).machine.recorded (DeliversFresh cfg)
        (initialState cfg .empty, []) tr s ∧
      (requestEvents job.event.id tr).countP Event.isOffer = 1 := by
  obtain ⟨request₀, hbegin₀⟩ := handleJob_of_job job hschema hgenerators {} 0
  obtain ⟨request₁, hbegin₁⟩ := handleJob_of_job job hschema hgenerators {} 1
  obtain ⟨offered, -, -, hoffer⟩ := handlerReturned_of_offer hpositive hbudget draws
  have hdelivered : Run _ _ (initialState cfg .empty, []) _ _ := Run.start.next
    (deliversFresh_of_quiet rfl rfl job.event) (Machine.recorded_step
      (CallService.step_begin (S := providerService cfg) (s := initialState cfg .empty) hbegin₀) [])
  have hresume : ∀ s call b, DeliversFresh cfg s (.resume call b) := fun _ _ _ => trivial
  have hdeclined := hdelivered.next (hresume _ 0 (.offered none, draws))
    (Machine.recorded_step (CallService.step_resume rfl rfl) _)
  have hrun := (hdeclined.next (deliversFresh_of_quiet rfl rfl job.event)
    (Machine.recorded_step (CallService.step_begin hbegin₁) _)).next
    (hresume _ 1 (.offered (some ⟨some amountSats⟩), draws))
    (Machine.recorded_step (CallService.step_resume rfl (congrArg some (hoffer {} 1))) _)
  refine ⟨_, _, hrun, ?_⟩
  simp [requestEvents, handlerReturned, ended, Event.starts, Event.callOf, Event.isOffer]

end

end

/-- The handler declines the request, and makes an offer when it is delivered again. -/
theorem redelivery_tolerated_declined :
    ∃ tr s, Run (providerService plainContext).machine.recorded (DeliversFresh plainContext)
        (initialState plainContext .empty, []) tr s ∧
      (requestEvents "r" tr).countP Event.isOffer = 1 ∧
      (requestEvents "r" tr).countP Event.isProduceCall ≤ 1 ∧
      (requestEvents "r" tr).countP Event.isResult ≤ 1 := by
  obtain ⟨tr, s, hrun, hoffers⟩ := exists_offer_after_decline plainJob (by decide) rfl
    offer_positive offer_withinBudget plainDraws
  exact ⟨tr, s, hrun, hoffers, (redelivery_tolerated plainContext .empty hrun "r").2⟩

/-- The relay delivers the request event twice, and the handler makes an offer each time. -/
theorem offers_again :
    ∃ tr s, Run (providerService plainContext).machine AnyStep (initialState plainContext .empty)
        tr s ∧
      (requestEvents "r" tr).countP Event.isOffer = 2 :=
  exists_two_offers plainJob (by decide) rfl offer_positive offer_withinBudget plainDraws

end Anchr.Provider
