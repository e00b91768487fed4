import Anchr.Oracle.Verdicts
import Anchr.Requests.QueryVerifier

/-!
# One pass of a result event

A result event reaches `handleResponseEvent`, and the call runs to its end with nothing in between.
-/

namespace Anchr.Oracle

open Infra Protocol Requests

variable {N : NostrTools} (cfg : Config N)

/-- These answers. -/
def passAnswers (detail : VerificationDetail) (successes : List String) (m : Moment) :
    Pending → Answer × Moment
  | .verifying _ | .verifyingFrost _ _ => (.verified detail, m)
  | .delivering .. | .deliveringFrost _ | .rejecting _ => (.published successes, m)
  | .signing .. => (.signed none, m)
  | _ => (.resolved, m)

/-- The pass of `event` from the maps `t` to the maps `t'`. -/
def Pass (detail : VerificationDetail) (successes : List String) (m : Moment) (t : Tables)
    (call : Nat) (queryId : String) (event : Protocol.Event) (evs : List Event) (t' : Tables) :
    Prop :=
  (oracleService cfg).CompletesFrom (passAnswers detail successes m) t call
    (.responseEvent queryId event m) evs t'

/-- The store has the preimage that was issued for the query, and a message to the Provider can be
made of it. -/
def Releasable (t : Tables) (queryId providerPubkey : String) (m : Moment) : Prop :=
  ∃ hash preimage dm, t.queryHashMap.get? queryId = some hash ∧ hash ≠ "" ∧
    t.preimages.get? hash = some preimage ∧ preimage ≠ "" ∧
    buildPreimageDM N cfg.text cfg.identity providerPubkey queryId preimage m = some dm

/-- A preimage is published. -/
def Event.isRelease (e : Event) : Prop := e.release.isSome = true

/-- A rejection is published. -/
def Event.isRejection : Event → Prop
  | .rejectionPublished .. => True
  | _ => False

/-- The events of a pass that verified its result, and whose release no relay accepted. -/
structure Undelivered (call : Nat) (queryId : String) (entry : WatchedQuery)
    (event : Protocol.Event) (payload : OracleQueryResponsePayload) (tr : List Event) : Prop where
  verified : .verified call entry.query
    (oracleResponseToResult cfg.resolveSchemaEvidence entry.query payload) true ∈ tr
  published : ∃ hash preimage dm,
    .preimagePublished call queryId event.pubkey hash preimage dm ∈ tr
  refused : ∀ dm successes, .attemptAnswered call dm successes ∈ tr → successes = []
  settled : .settled call queryId event.pubkey false ∈ tr

section

variable {cfg} {detail : VerificationDetail} {successes : List String} {m : Moment} {t t' : Tables}
  {call : Nat} {queryId : String} {event : Protocol.Event} {evs : List Event}
  {entry : WatchedQuery} {payload : OracleQueryResponsePayload}

/-- For a watched request without a quorum the event is ignored, or it is of the selected Provider
and goes to the verifier. -/
theorem begin_cases (hwatched : t.watched.get? queryId = some entry)
    (hquorum : entry.query.quorum = none) :
    (oracleService cfg).begin t call (.responseEvent queryId event m) = { shared := t } ∨
    ∃ payload, Accepts cfg entry event payload ∧ event.pubkey ≠ "" ∧
      (oracleService cfg).begin t call (.responseEvent queryId event m) =
        { shared := t
          events := [.resultAccepted call queryId entry event payload]
          pending := some (.verifying (deliveryOf cfg queryId entry event payload)) } := by
  show handleResponseEvent cfg t call queryId event m = _ ∨ ∃ payload, _ ∧ _ ∧
    handleResponseEvent cfg t call queryId event m = _
  rcases handleResponseEvent_cases t call queryId event m with
    hignored | ⟨entry', payload, hentry, haccepts, hpubkey, hdispatched⟩
  · exact .inl hignored
  · rw [hwatched] at hentry
    cases hentry
    refine .inr ⟨payload, haccepts, hpubkey, ?_⟩
    rw [hdispatched, dispatchVerifyAndDeliver]
    simp only [deliveryOf, hquorum, Option.isSome_none, Bool.false_eq_true, if_false]

theorem begin_of_accepts (hwatched : t.watched.get? queryId = some entry)
    (haccepts : Accepts cfg entry event payload) (hpubkey : event.pubkey ≠ "")
    (hquorum : entry.query.quorum = none) :
    (oracleService cfg).begin t call (.responseEvent queryId event m) =
      { shared := t
        events := [.resultAccepted call queryId entry event payload]
        pending := some (.verifying (deliveryOf cfg queryId entry event payload)) } := by
  show handleResponseEvent cfg t call queryId event m = _
  simp only [handleResponseEvent, hwatched, haccepts.selected, haccepts.parsed, haccepts.queryId,
    haccepts.requestEventId, hpubkey, ne_eq, not_true_eq_false, or_self, if_false]
  rw [dispatchVerifyAndDeliver, hquorum]
  rfl

/-! ## After a rejection -/

def Pending.isClosing : Pending → Prop
  | .rejecting _ | .settling _ _ => True
  | _ => False

theorem resume_closing {p : Pending} {turn : Turn} (hp : p.isClosing)
    (h : (oracleService cfg).resume t call p (passAnswers detail successes m p) = some turn) :
    (∀ e ∈ turn.events, ¬e.isRelease) ∧ ∀ q, turn.pending = some q → q.isClosing := by
  cases p with
  | rejecting d =>
    cases h
    refine ⟨by simp [returning], fun q hq => ?_⟩
    cases hq
    trivial
  | settling d outcome =>
    cases h
    refine ⟨fun e he => ?_, fun q hq => by cases hq⟩
    rw [List.mem_singleton.mp he]
    simp [Event.isRelease, Event.release]
  | _ => cases hp

variable {events : List Event} {d : Delivery} {e : Event} {hash : String}

/-- A turn that rejects, or throws, publishes no release, and neither does the rest of the call. -/
theorem no_release_after_reject {reason : String}
    (h : (oracleService cfg).Completes (passAnswers detail successes m) call
      (reject cfg t call d events reason m) evs t') (hevents : ∀ e ∈ events, ¬e.isRelease) :
    ∀ e ∈ evs, ¬e.isRelease := by
  refine h.events (fun hp hresume => resume_closing hp hresume) ?_ ?_
  · unfold reject
    split
    next => exact hevents
    next dm _ =>
      intro e he
      rcases List.mem_append.mp he with he | he
      · exact hevents e he
      · rw [List.mem_singleton.mp he]
        simp [Event.isRelease, Event.release]
  · unfold reject
    split
    next => intro q hq; cases hq
    next dm _ =>
      intro q hq
      cases hq
      trivial

/-! ## What a release rests on -/

theorem attempt_of_release {preimage : Option String} (hevents : ∀ e ∈ events, ¬e.isRelease)
    (h : (oracleService cfg).Completes (passAnswers detail successes m) call
      (deliver cfg t call d detail events hash preimage m) evs t') (he : e ∈ evs)
    (hrelease : e.isRelease) :
    ∃ p dm, preimage = some p ∧ detail.passed = true ∧ p ≠ "" ∧ hash ≠ "" ∧
      buildPreimageDM N cfg.text cfg.identity d.providerPubkey d.queryId p m = some dm ∧
      deliver cfg t call d detail events hash preimage m = attempt t call d events hash p dm 1 := by
  unfold deliver at h ⊢
  split at h
  next p =>
    split at h
    next hready =>
      split at h
      next =>
        -- the builder throws, and the call is over
        rw [h.over rfl] at he
        exact absurd hrelease (hevents e he)
      next dm hdm => exact ⟨p, dm, rfl, hready.1, hready.2.1, hready.2.2, hdm, by simp [hready]⟩
    next => exact absurd hrelease (no_release_after_reject h hevents e he)
  next => exact absurd hrelease (no_release_after_reject h hevents e he)

theorem reading_of_release
    (h : (oracleService cfg).Completes (passAnswers detail successes m) call
      (verifiedTurn cfg t call d detail m) evs t') (he : e ∈ evs) (hrelease : e.isRelease) :
    ∃ hash, t.queryHashMap.get? d.queryId = some hash ∧ hash ≠ "" ∧
      verifiedTurn cfg t call d detail m =
        { shared := t
          events := [.verified call d.query d.result detail.passed,
            .preimageRead call hash (t.preimages.get? hash)]
          pending := some (.reading d detail hash (t.preimages.get? hash)) } := by
  have hsilent : ∀ e ∈ [Event.verified call d.query d.result detail.passed], ¬e.isRelease := by
    simp [Event.isRelease, Event.release]
  unfold verifiedTurn at h ⊢
  split at h
  next hash hhash =>
    by_cases hne : hash ≠ ""
    · exact ⟨hash, hhash, hne, by simp [hne]⟩
    · rw [if_neg hne] at h
      obtain ⟨p, dm, hpreimage, -⟩ := attempt_of_release hsilent h he hrelease
      cases hpreimage
  obtain ⟨p, dm, hpreimage, -⟩ := attempt_of_release hsilent h he hrelease
  cases hpreimage

/-- The pass up to the attempt, told from its release. -/
theorem attempt_of_pass (hwatched : t.watched.get? queryId = some entry)
    (hquorum : entry.query.quorum = none)
    (h : Pass cfg detail successes m t call queryId event evs t') (he : e ∈ evs)
    (hrelease : e.isRelease) :
    ∃ payload hash p dm evs', Accepts cfg entry event payload ∧ detail.passed = true ∧
      t.queryHashMap.get? queryId = some hash ∧ hash ≠ "" ∧ t.preimages.get? hash = some p ∧
      p ≠ "" ∧
      buildPreimageDM N cfg.text cfg.identity event.pubkey queryId p m = some dm ∧
      (oracleService cfg).Completes (passAnswers detail successes m) call
        (attempt t call (deliveryOf cfg queryId entry event payload) [] hash p dm 1) evs' t' := by
  rcases (begin_cases hwatched hquorum :
    (oracleService cfg).begin t call (.responseEvent queryId event m) = _ ∨ _) with
    hbegin | ⟨payload, haccepts, -, hbegin⟩
  · rw [Pass, CallService.CompletesFrom, hbegin] at h
    rw [h.over rfl] at he
    cases he
  · rw [Pass, CallService.CompletesFrom, hbegin] at h
    let d := deliveryOf cfg queryId entry event payload
    obtain ⟨evs₁, rfl, hverified⟩ : ∃ evs₁, evs =
        [.resultAccepted call queryId entry event payload] ++ evs₁ ∧
        (oracleService cfg).Completes (passAnswers detail successes m) call
          (verifiedTurn cfg t call d detail m) evs₁ t' := h.rest rfl rfl
    have he₁ : e ∈ evs₁ := by
      rcases List.mem_cons.mp he with rfl | he
      · cases hrelease
      · exact he
    -- after the verification: the hash is looked up, then the preimage
    obtain ⟨hash, hhash, hne, hreading⟩ := reading_of_release hverified he₁ hrelease
    rw [hreading] at hverified
    obtain ⟨evs₂, rfl, hread⟩ : ∃ evs₂, evs₁ = [.verified call d.query d.result detail.passed,
          .preimageRead call hash (t.preimages.get? hash)] ++ evs₂ ∧
        (oracleService cfg).Completes (passAnswers detail successes m) call
          (deliver cfg t call d detail [] hash (t.preimages.get? hash) m) evs₂ t' :=
      hverified.rest rfl rfl
    have he₂ : e ∈ evs₂ := by
      rcases List.mem_cons.mp he₁ with rfl | he₁
      · cases hrelease
      rcases List.mem_cons.mp he₁ with rfl | he₁
      · cases hrelease
      · exact he₁
    obtain ⟨p, dm, hpreimage, hpassed, hp, -, hdm, hattempt⟩ :=
      attempt_of_release (by simp) hread he₂ hrelease
    rw [hattempt] at hread
    exact ⟨payload, hash, p, dm, evs₂, haccepts, hpassed, hhash, hne, hpreimage, hp, hdm, hread⟩

/-- A pass that publishes a preimage found it, and its verification passed. -/
theorem released_of_pass (hwatched : t.watched.get? queryId = some entry)
    (hquorum : entry.query.quorum = none)
    (h : Pass cfg detail successes m t call queryId event evs t') (he : e ∈ evs)
    (hrelease : e.isRelease) :
    detail.passed = true ∧ Releasable cfg t queryId event.pubkey m := by
  obtain ⟨_, hash, p, dm, _, -, hpassed, hhash, hne, hpreimage, hp, hdm, -⟩ :=
    attempt_of_pass hwatched hquorum h he hrelease
  exact ⟨hpassed, hash, p, dm, hhash, hne, hpreimage, hp, hdm⟩

/-! ## A release that a relay accepts -/

/-- The pass up to the first attempt, towards its release. -/
theorem pass_of_attempt (hwatched : t.watched.get? queryId = some entry)
    (haccepts : Accepts cfg entry event payload) (hpubkey : event.pubkey ≠ "")
    (hquorum : entry.query.quorum = none) (hpassed : detail.passed = true) {p : String}
    {dm : Protocol.Event} (hhash : t.queryHashMap.get? queryId = some hash) (hne : hash ≠ "")
    (hget : t.preimages.get? hash = some p) (hp : p ≠ "")
    (hdm : buildPreimageDM N cfg.text cfg.identity event.pubkey queryId p m = some dm)
    (hrest : (oracleService cfg).Completes (passAnswers detail successes m) call
      (attempt t call (deliveryOf cfg queryId entry event payload) [] hash p dm 1) evs t') :
    Pass cfg detail successes m t call queryId event
      (.resultAccepted call queryId entry event payload ::
        .verified call entry.query
          (oracleResponseToResult cfg.resolveSchemaEvidence entry.query payload) true ::
        .preimageRead call hash (some p) :: evs) t' := by
  let d := deliveryOf cfg queryId entry event payload
  have hverified : (oracleService cfg).resume t call (.verifying d)
      (passAnswers detail successes m (.verifying d)) = some
        { shared := t
          events := [.verified call d.query d.result true, .preimageRead call hash (some p)]
          pending := some (.reading d detail hash (some p)) } := by
    show some (verifiedTurn cfg t call d detail m) = _
    have hhash' : t.queryHashMap.get? d.queryId = some hash := hhash
    simp only [verifiedTurn, hhash', hne, ne_eq, not_false_eq_true, if_true, hget, hpassed]
  have hread : (oracleService cfg).resume t call (.reading d detail hash (some p))
      (passAnswers detail successes m (.reading d detail hash (some p))) =
        some (attempt t call d [] hash p dm 1) := by
    show some (deliver cfg t call d detail [] hash (some p) m) = _
    have hdm' : buildPreimageDM N cfg.text cfg.identity d.providerPubkey d.queryId p m = some dm :=
      hdm
    simp only [deliver, hpassed, hp, hne, ne_eq, not_false_eq_true, and_self, if_true, hdm']
  exact CallService.CompletesFrom.of_begin
    (begin_of_accepts hwatched haccepts hpubkey hquorum)
    (.next rfl hverified (.next rfl hread hrest))

/-- Conversely. -/
theorem pass_releases (hwatched : t.watched.get? queryId = some entry)
    (haccepts : Accepts cfg entry event payload) (hpubkey : event.pubkey ≠ "")
    (hquorum : entry.query.quorum = none) (hpassed : detail.passed = true)
    (hreleasable : Releasable cfg t queryId event.pubkey m)
    (hsuccesses : successes ≠ []) :
    ∃ evs t', Pass cfg detail successes m t call queryId event evs t' ∧
      (∃ e ∈ evs, e.isRelease) ∧ ∀ e ∈ evs, ¬e.isRejection := by
  obtain ⟨hash, p, dm, hhash, hne, hget, hp, hdm⟩ := hreleasable
  let d := deliveryOf cfg queryId entry event payload
  have hdelivered : (oracleService cfg).resume t call (.delivering d hash p dm 1)
      (passAnswers detail successes m (.delivering d hash p dm 1)) = some
        { shared := { t with preimages := t.preimages.delete hash }
          events := [.attemptAnswered call dm successes, .preimageDeleted call hash]
          pending := some (.deleting d hash) } := by
    show some (attemptAnswered cfg t call d hash p dm 1 successes) = _
    simp only [attemptAnswered, hsuccesses, ne_eq, not_false_eq_true, if_true]
  have hpass := pass_of_attempt hwatched haccepts hpubkey hquorum hpassed hhash hne hget hp hdm
    (.next rfl hdelivered (.next rfl rfl (.next rfl rfl (.ended rfl))))
  refine ⟨_, _, hpass, ?_, ?_⟩
  · exact ⟨.preimagePublished call queryId event.pubkey hash p dm,
      by simp [attempt, deliveryOf], rfl⟩
  · simp [attempt, returning, settle, Event.isRejection]

/-! ## A release that no relay accepts -/

/-- Attempts that no relay accepts come to an end, and leave the maps as they are. By induction on
the attempts that are left. -/
theorem attempts_fail (detail : VerificationDetail) (m : Moment) (t : Tables) (call : Nat)
    (d : Delivery) (hash p : String) (dm : Protocol.Event) :
    ∀ k n, n + k = (retryDelaysMs cfg).length + 1 →
      ∃ evs, (oracleService cfg).Completes (passAnswers detail [] m) call
          (attempt t call d [] hash p dm n) evs t ∧
        .preimagePublished call d.queryId d.providerPubkey hash p dm ∈ evs ∧
        (∀ dm' successes', .attemptAnswered call dm' successes' ∈ evs → successes' = []) ∧
        .settled call d.queryId d.providerPubkey false ∈ evs
  | 0, n, hn => by
    have hanswered : (oracleService cfg).resume t call (.delivering d hash p dm n)
        (passAnswers detail [] m (.delivering d hash p dm n)) = some
          (returning t d [.attemptAnswered call dm []] { passed := false, terminal := false }) := by
      show some (attemptAnswered cfg t call d hash p dm n []) = _
      have hlast : ¬n ≤ (retryDelaysMs cfg).length := by omega
      simp only [attemptAnswered, ne_eq, not_true_eq_false, if_false, hlast]
    refine ⟨_, .next rfl hanswered (.next rfl rfl (.ended rfl)), ?_, ?_, ?_⟩
    · simp [attempt]
    · simp [attempt, returning, settle]
    · simp [attempt, returning, settle]
  | k + 1, n, hn => by
    obtain ⟨evs, hrest, -, hanswers, hsettled⟩ :=
      attempts_fail detail m t call d hash p dm k (n + 1) (by omega)
    have hanswered : (oracleService cfg).resume t call (.delivering d hash p dm n)
        (passAnswers detail [] m (.delivering d hash p dm n)) = some
          { shared := t, events := [.attemptAnswered call dm []]
            pending := some (.retrying d hash p dm n) } := by
      show some (attemptAnswered cfg t call d hash p dm n []) = _
      have hmore : n ≤ (retryDelaysMs cfg).length := by omega
      simp only [attemptAnswered, ne_eq, not_true_eq_false, if_false, hmore, if_true]
    refine ⟨_, .next rfl hanswered (.next rfl rfl hrest), ?_, ?_, ?_⟩
    · simp [attempt]
    · intro dm' successes' h
      simp only [attempt, List.nil_append, List.cons_append, List.mem_cons, reduceCtorEq,
        false_or, Event.attemptAnswered.injEq, true_and] at h
      rcases h with ⟨-, rfl⟩ | h
      · rfl
      · exact hanswers dm' successes' h
    · simp [hsettled]

/-- A verified result whose release no relay accepts: the pass ends, the request stays watched and
the preimage stays in the store. -/
theorem pass_fails (hwatched : t.watched.get? queryId = some entry)
    (haccepts : Accepts cfg entry event payload) (hpubkey : event.pubkey ≠ "")
    (hquorum : entry.query.quorum = none) (hpassed : detail.passed = true)
    (hreleasable : Releasable cfg t queryId event.pubkey m) :
    ∃ evs, Pass cfg detail [] m t call queryId event evs t ∧
      Undelivered cfg call queryId entry event payload evs := by
  obtain ⟨hash, p, dm, hhash, hne, hget, hp, hdm⟩ := hreleasable
  have hall : 1 + (retryDelaysMs cfg).length = (retryDelaysMs cfg).length + 1 := Nat.add_comm _ _
  obtain ⟨evs, hrest, hpublished, hrefused, hsettled⟩ := attempts_fail detail m t call
    (deliveryOf cfg queryId entry event payload) hash p dm _ 1 hall
  refine ⟨_, pass_of_attempt hwatched haccepts hpubkey hquorum hpassed hhash hne hget hp hdm hrest,
    ?_, ⟨hash, p, dm, ?_⟩, ?_, ?_⟩
  · simp
  · simpa [deliveryOf] using hpublished
  · simpa using hrefused
  · simpa [deliveryOf] using hsettled

end

end Anchr.Oracle
