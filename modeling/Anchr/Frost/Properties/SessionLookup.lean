import Anchr.Frost.SessionUpkeep

/-!
# Which sessions can be looked up

Only `initDkg` and `startSigning` evict. Every other operation leaves a session that has become
stale in its map. `GET /frost/sign/:queryId` passes the query id to `getSigningSession`, which takes
a session id. Nothing reads `querySessionMap`.
-/

namespace Anchr.Frost

open Infra SignRoutes

/-- No stale session is observable at the given time. -/
structure NothingStale (c : Coordinator) (now : Int) : Prop where
  dkg : ∀ sessionId session, c.getDkgSession sessionId = some session → session.stale now = false
  signing : ∀ sessionId session, c.getSigningSession sessionId = some session →
    session.stale now = false

/-- The most recently started session for the query that is not stale. -/
def Coordinator.latestLive (c : Coordinator) (queryId : String) (now : Int) :
    Option FrostSigningSession :=
  (c.objects.filter fun s => decide (s.queryId = queryId) && !s.stale now).getLast?

variable {T : NumberText} {frostConfig : Option ThresholdOracleConfig} {shared : SignShared}
  {c : Coordinator} {now : Int} {call : Nat} {s s' : CallState SignShared Pending}
  {a : CallAction (Timed SignOperation) (Timed Answer)} {evs tr : List SignEvent}

/-! ## What an operation makes stale -/

theorem nothingStale_evict (c : Coordinator) (now : Int) :
    NothingStale (c.evictStaleSessions now) now where
  dkg := fun _ _ h => (evict_dkg.mp h).2
  signing := by
    intro sessionId session h
    obtain ⟨ref, hget, hobject⟩ := getSigningSession_eq_some.mp h
    have hnot := (evict_signing.mp hget).2
    rw [evict_objects] at hobject
    rw [hobject] at hnot
    exact hnot

theorem dkg_init_stale (sessionId : String) (threshold total : Nat) (now : Int) :
    (DkgSession.init sessionId threshold total now).stale now = false := by
  unfold DkgSession.stale DkgSession.init FROST_SESSION_TTL_MS
  exact decide_eq_false (by dsimp only; omega)

theorem started_stale (sessionId queryId message : String) (config : ThresholdOracleConfig)
    (now : Int) :
    (FrostSigningSession.started sessionId queryId message config now).stale now = false := by
  have hcreated : ¬now < now - FROST_SESSION_TTL_MS := by unfold FROST_SESSION_TTL_MS; omega
  simp [FrostSigningSession.stale, FrostSigningSession.started, hcreated]

theorem nothingStale_initDkg (c : Coordinator) (sessionId : String) (threshold total : Nat)
    (now : Int) : NothingStale (c.initDkg sessionId threshold total now) now where
  dkg := by
    intro sessionId' session h
    rcases JsMap.get?_of_set h with ⟨-, rfl⟩ | hold
    · exact dkg_init_stale ..
    · exact (nothingStale_evict c now).dkg _ _ hold
  signing := (nothingStale_evict c now).signing

theorem nothingStale_startSigning (c : Coordinator) (sessionId queryId message : String)
    (config : ThresholdOracleConfig) (now : Int) :
    NothingStale (c.startSigning sessionId queryId message config now) now where
  dkg := (nothingStale_evict c now).dkg
  signing := by
    intro sessionId' session h
    obtain ⟨ref, hget, hobject⟩ := getSigningSession_eq_some.mp h
    have hobject' : ((c.evictStaleSessions now).objects ++
        [.started sessionId queryId message config now])[ref]? = some session := hobject
    rcases Nat.lt_or_ge ref (c.evictStaleSessions now).objects.length with hlt | hge
    · rw [List.getElem?_append_left hlt] at hobject'
      rcases JsMap.get?_of_set hget with ⟨-, rfl⟩ | hold
      · exact absurd hlt (Nat.lt_irrefl _)
      · exact (nothingStale_evict c now).signing _ _
          (getSigningSession_eq_some.mpr ⟨ref, hold, hobject'⟩)
    · -- only the new session is this far in the list
      rw [List.getElem?_append_right hge] at hobject'
      have hmem := List.mem_of_getElem? hobject'
      rw [List.mem_singleton.mp hmem]
      exact started_stale ..

variable {ref : Nat}

theorem nothingStale_modify_iff {f : FrostSigningSession → FrostSigningSession}
    (hf : ∀ s, (f s).stale now = s.stale now) :
    NothingStale (c.modify ref f) now ↔ NothingStale c now := by
  constructor
  · intro h
    refine ⟨h.dkg, fun sessionId session hget => ?_⟩
    obtain ⟨r, hr, hs⟩ := getSigningSession_eq_some.mp hget
    have hafter := h.signing sessionId (if r = ref then f session else session)
      (getSigningSession_modify.mpr ⟨r, session, find_eq_some.mpr ⟨hr, hs⟩, rfl⟩)
    split at hafter
    next => rw [← hf session]; exact hafter
    next => exact hafter
  · intro h
    refine ⟨h.dkg, fun sessionId session hget => ?_⟩
    obtain ⟨r, s, hfind, rfl⟩ := getSigningSession_modify.mp hget
    have hbefore := h.signing sessionId s (getSigningSession_eq_some.mpr ⟨r, find_eq_some.mp hfind⟩)
    split
    next => rw [hf]; exact hbefore
    next => exact hbefore

theorem nothingStale_setDkg_iff {sessionId : String} {session session' : DkgSession}
    (hget : c.dkgSessions.get? sessionId = some session)
    (hcreated : session'.createdAt = session.createdAt) :
    NothingStale { c with dkgSessions := c.dkgSessions.set sessionId session' } now ↔
      NothingStale c now := by
  have hstale : session'.stale now = session.stale now := by
    unfold DkgSession.stale
    rw [hcreated]
  constructor
  · intro h
    refine ⟨fun id s hs => ?_, h.signing⟩
    by_cases hid : id = sessionId
    · subst hid
      obtain rfl := Option.some.inj (hget.symm.trans hs)
      rw [← hstale]
      exact h.dkg id session' (JsMap.get?_set_self _ _ _)
    · exact h.dkg id s ((JsMap.get?_set_ne _ _ hid).trans hs)
  · intro h
    refine ⟨fun id s hs => ?_, h.signing⟩
    rcases JsMap.get?_of_set hs with ⟨-, rfl⟩ | hold
    · rw [hstale]
      exact h.dkg sessionId session hget
    · exact h.dkg id s hold

theorem Minor.nothingStale_iff {c' : Coordinator} (h : Minor c c') :
    NothingStale c' now ↔ NothingStale c now := by
  cases h with
  | same => rfl
  | dkg hget hcreated => exact nothingStale_setDkg_iff hget hcreated
  | assign ref f hf => exact nothingStale_modify_iff fun s => (hf s).2 now

/-- An aggregated session is stale already if it is older than the retention of finalized ones. -/
theorem nothingStale_aggregated {result : FrostCliResult} :
    NothingStale (c.modify ref fun s => s.aggregated result) now ↔
      NothingStale c now ∧ (result.signature.isSome → ∀ sessionId session,
        c.find sessionId = some (ref, session) →
          now - FROST_FINALIZED_RETENTION_MS ≤ session.createdAt) := by
  cases hsignature : result.signature with
  | none =>
    have hsame : ∀ s : FrostSigningSession, (s.aggregated result).stale now = s.stale now := by
      intro s
      unfold FrostSigningSession.aggregated
      rw [hsignature]
    rw [nothingStale_modify_iff hsame]
    simp
  | some signature =>
    have hstale : ∀ s : FrostSigningSession, (s.aggregated result).stale now = false ↔
        s.stale now = false ∧ now - FROST_FINALIZED_RETENTION_MS ≤ s.createdAt := by
      intro s
      unfold FrostSigningSession.aggregated
      rw [hsignature]
      unfold FrostSigningSession.stale
      simp only [Bool.or_eq_false_iff, Bool.true_and, Bool.and_eq_false_iff,
        decide_eq_false_iff_not, Int.not_lt]
      tauto
    constructor
    · intro h
      have hbefore : ∀ sessionId r s, c.find sessionId = some (r, s) →
          s.stale now = false ∧ (r = ref → now - FROST_FINALIZED_RETENTION_MS ≤ s.createdAt) := by
        intro sessionId r s hfind
        have hafter := h.signing sessionId _ (getSigningSession_modify.mpr ⟨r, s, hfind, rfl⟩)
        split at hafter
        next => exact ⟨((hstale s).mp hafter).1, fun _ => ((hstale s).mp hafter).2⟩
        next hne => exact ⟨hafter, fun heq => absurd heq hne⟩
      refine ⟨⟨h.dkg, fun sessionId s hget => ?_⟩, fun _ sessionId s hfind => ?_⟩
      · obtain ⟨r, hr⟩ := getSigningSession_eq_some.mp hget
        exact (hbefore sessionId r s (find_eq_some.mpr hr)).1
      · exact (hbefore sessionId ref s hfind).2 rfl
    · rintro ⟨h, hyoung⟩
      refine ⟨h.dkg, fun sessionId s' hget => ?_⟩
      obtain ⟨r, s, hfind, rfl⟩ := getSigningSession_modify.mp hget
      have hnot := h.signing sessionId s (getSigningSession_eq_some.mpr ⟨r, find_eq_some.mp hfind⟩)
      split
      next heq =>
        subst heq
        exact (hstale s).mpr ⟨hnot, hyoung rfl sessionId s hfind⟩
      next => exact hnot

/-! ## Lookups by query id -/

/-- The query id leads to the right session: there is none and no session has this id, or the
session has the query id as its own id. -/
def Answerable (c : Coordinator) (queryId : String) (now : Int) : Prop :=
  match c.latestLive queryId now with
  | none => c.signingSessions.get? queryId = none
  | some session => session.sessionId = queryId

theorem mem_of_latestLive {queryId : String} {session : FrostSigningSession}
    (h : c.latestLive queryId now = some session) :
    session ∈ c.objects ∧ session.stale now = false := by
  have hmem := List.mem_of_getLast? h
  rw [List.mem_filter, Bool.and_eq_true] at hmem
  exact ⟨hmem.1, by simpa using hmem.2.2⟩

theorem sessionId_signingSessionResponse (found : FrostSigningSession) :
    (signingSessionResponse found).body.string? "session_id" = some found.sessionId := by
  unfold signingSessionResponse
  cases found.groupSignature <;> rfl

theorem getSignResponse_none_ne (found : FrostSigningSession) :
    getSignResponse none ≠ getSignResponse (some found) := by
  intro h
  have hstatus : 404 = 200 := congrArg Response.status h
  omega

theorem getSign_right_iff (hstored : Stored shared) (hle : shared.clock ≤ now) (queryId : String) :
    getSignResponse (shared.coordinator.getSigningSession queryId)
        = getSignResponse (shared.coordinator.latestLive queryId now) ↔
      Answerable shared.coordinator queryId now := by
  unfold Answerable
  cases hlatest : shared.coordinator.latestLive queryId now with
  | none =>
    cases hfound : shared.coordinator.getSigningSession queryId with
    | none =>
      refine iff_of_true rfl ?_
      refine Option.eq_none_iff_forall_ne_some.mpr fun ref href => ?_
      obtain ⟨session, hobject, -⟩ := hstored.keyed queryId ref href
      rw [getSigningSession_eq_some.mpr ⟨ref, href, hobject⟩] at hfound
      cases hfound
    | some found =>
      obtain ⟨ref, href, -⟩ := getSigningSession_eq_some.mp hfound
      exact iff_of_false (getSignResponse_none_ne found).symm (by simp [href])
  | some latest =>
    obtain ⟨hmem, hlive⟩ := mem_of_latestLive hlatest
    constructor
    · intro h
      cases hfound : shared.coordinator.getSigningSession queryId with
      | none =>
        rw [hfound] at h
        exact absurd h (getSignResponse_none_ne latest)
      | some found =>
        -- the answer names the session
        obtain ⟨ref, href, hobject⟩ := getSigningSession_eq_some.mp hfound
        obtain ⟨session, hobject', hid⟩ := hstored.keyed queryId ref href
        obtain rfl := Option.some.inj (hobject.symm.trans hobject')
        rw [hfound] at h
        have hname := congrArg (fun r => r.body.string? "session_id") h
        simp only [getSignResponse, sessionId_signingSessionResponse] at hname
        show latest.sessionId = queryId
        rw [← Option.some.inj hname, hid]
    · intro hid
      obtain ⟨ref, hobject⟩ := List.mem_iff_getElem?.mp hmem
      have hget := hstored.kept ref latest hobject (stale_mono hle hlive)
      rw [hid] at hget
      rw [getSigningSession_eq_some.mpr ⟨ref, hget, hobject⟩]

/-! ## Every step -/

/-- The operation calls the coordinator. A route that answers with an error of its own does not. -/
def SignOperation.reaches (frostConfig : Option ThresholdOracleConfig) : SignOperation → Bool
  | .postSign _ message _ => message.any (· ≠ "") && frostConfig.isSome
  | .postCommitments body => body.any CommitmentBody.complete
  | .postShares body => body.any ShareBody.complete
  | _ => true

/-- After a step nothing stale is observable, and a lookup by query id gives the right session. -/
def LookupRight (frostConfig : Option ThresholdOracleConfig) (s s' : CallState SignShared Pending)
    (evs : List SignEvent) : CallAction (Timed SignOperation) (Timed Answer) → Prop
  | .begin r =>
    (r.value.reaches frostConfig = true → NothingStale s'.shared.coordinator r.now) ∧
    ∀ queryId, r.value = .getSign queryId → evs = [⟨s.nextCall,
      .response (getSignResponse (s.shared.coordinator.latestLive queryId r.now))⟩]
  | .resume call b => ∀ ref route, s.calls.get? call = some (.aggregating ref route) →
    NothingStale s'.shared.coordinator b.now

/-- Nothing was stale before the step, where the step does not evict. A session is finalized within
the retention of finalized ones, and a query id is looked up that leads to the right session. -/
def InTime (frostConfig : Option ThresholdOracleConfig) (s : CallState SignShared Pending) :
    CallAction (Timed SignOperation) (Timed Answer) → Prop
  | .begin ⟨_, .initDkg _ _ _⟩ | .begin ⟨_, .startSigning _ _ _ _⟩
  | .begin ⟨_, .postSign _ _ _⟩ => True
  | .begin ⟨now, .getSign queryId⟩ => NothingStale s.shared.coordinator now ∧
    Answerable s.shared.coordinator queryId now
  | .begin ⟨now, op⟩ => op.reaches frostConfig = true → NothingStale s.shared.coordinator now
  | .resume call b => ∀ ref route, s.calls.get? call = some (.aggregating ref route) →
    NothingStale s.shared.coordinator b.now ∧
    ∀ result, b.value = .aggregated (some result) → result.signature.isSome →
      ∀ sessionId session, s.shared.coordinator.find sessionId = some (ref, session) →
        b.now - FROST_FINALIZED_RETENTION_MS ≤ session.createdAt

theorem begin_right_iff (hstored : Stored s.shared) {r : Timed SignOperation}
    (hle : s.shared.clock ≤ r.now) :
    ((r.value.reaches frostConfig = true →
        NothingStale (begin T frostConfig s.shared s.nextCall r).shared.coordinator r.now) ∧
      ∀ queryId, r.value = .getSign queryId →
        (begin T frostConfig s.shared s.nextCall r).events = [⟨s.nextCall,
          .response (getSignResponse (s.shared.coordinator.latestLive queryId r.now))⟩]) ↔
      InTime frostConfig s (.begin r) := by
  obtain ⟨now, op⟩ := r
  have hother : (∀ queryId, op ≠ .getSign queryId) → ∀ {P : Prop},
      (P ∧ ∀ queryId, op = .getSign queryId →
        (begin T frostConfig s.shared s.nextCall ⟨now, op⟩).events = [⟨s.nextCall,
          .response (getSignResponse (s.shared.coordinator.latestLive queryId now))⟩]) ↔ P := by
    intro hne P
    exact and_iff_left fun queryId h => absurd h (hne queryId)
  have hquiet : op.evicts = false →
      (NothingStale (begin T frostConfig s.shared s.nextCall ⟨now, op⟩).shared.coordinator now ↔
        NothingStale s.shared.coordinator now) := by
    intro hop
    obtain ⟨c', hshared, hminor⟩ := begin_minor ⟨now, op⟩ hop
    rw [hshared]
    exact hminor.nothingStale_iff
  cases op with
  | initDkg sessionId threshold total =>
    rw [hother (by simp)]
    exact iff_of_true (fun _ => nothingStale_initDkg ..) trivial
  | startSigning sessionId queryId message config =>
    rw [hother (by simp)]
    exact iff_of_true (fun _ => nothingStale_startSigning ..) trivial
  | postSign queryId message sessionId =>
    rw [hother (by simp)]
    refine iff_of_true (fun hreaches => ?_) trivial
    simp only [SignOperation.reaches, Bool.and_eq_true] at hreaches
    obtain ⟨config, rfl⟩ := Option.isSome_iff_exists.mp hreaches.2
    cases message with
    | none => simp at hreaches
    | some message =>
      have hne : message ≠ "" := by simpa using hreaches.1
      have hfilter : (some message).filter (fun m => decide (m ≠ "")) = some message := by
        simp [hne]
      simp only [begin, postSign, hfilter]
      exact nothingStale_startSigning ..
  | getSign queryId =>
    have hright := getSign_right_iff hstored hle queryId
    simp only [begin, answer, InTime, SignOperation.reaches, forall_const,
      SignOperation.getSign.injEq, forall_eq', List.cons.injEq, and_true, SignEvent.mk.injEq,
      true_and, SignReply.response.injEq, hright]
  | submitDkgPackage | submitNonceCommitment | submitSignatureShare | tryAggregate | getDkgSession
  | getSigningSession | postCommitments | postShares =>
    rw [hother (by simp)]
    exact imp_congr_right fun _ => hquiet rfl

theorem resume_right_iff {p : Pending} {b : Timed Answer} {turn : Turn} {route : Bool}
    (hp : p = .aggregating ref route) (hresume : resume shared call p b = some turn) :
    NothingStale turn.shared.coordinator b.now ↔ NothingStale shared.coordinator b.now ∧
      ∀ result, b.value = .aggregated (some result) → result.signature.isSome →
        ∀ sessionId session, shared.coordinator.find sessionId = some (ref, session) →
          b.now - FROST_FINALIZED_RETENTION_MS ≤ session.createdAt := by
  subst hp
  obtain ⟨now, value⟩ := b
  cases value with
  | continued => simp [resume] at hresume
  | aggregated result =>
    cases result with
    | none =>
      cases hresume
      simp [answer]
    | some result =>
      have hshared : turn.shared
          = ⟨shared.coordinator.modify ref fun s => s.aggregated result, now⟩ := by
        cases hresume
        cases route <;> rfl
      rw [hshared, nothingStale_aggregated]
      simp

/-- For every step of every run: nothing stale is observable afterwards and a lookup by query id is
right, exactly under the condition on the state before. -/
theorem session_lookup_iff {clock : Int}
    (hrun : Run (service T frostConfig).machine Lawful (noSessions clock) tr s)
    (hlawful : Lawful s a) (hstep : (service T frostConfig).machine.step s a = some (s', evs)) :
    LookupRight frostConfig s s' evs a ↔ InTime frostConfig s a := by
  have hstored := stored_of_run hrun
  obtain ⟨call, turn, htakes, hshared, -, rfl⟩ := CallService.takes_of_step hstep
  cases htakes with
  | begin r =>
    unfold LookupRight
    rw [hshared]
    exact begin_right_iff hstored hlawful.1
  | resume hp hresume =>
    unfold LookupRight InTime
    rw [hshared]
    refine forall_congr' fun ref => forall_congr' fun route => ?_
    rw [hp]
    refine imp_congr_right fun heq => ?_
    exact resume_right_iff (Option.some.inj heq) hresume

/-! ## Two queries -/

/-- Two signers. -/
def duoConfig : ThresholdOracleConfig :=
  { threshold := 2, totalSigners := 2, signerPubkeys := ["p1", "p2"], groupPubkey := "g" }

/-- A session is started for query `q`, and half an hour later one for query `p`. -/
def oneStarted : CallState SignShared Pending where
  shared := ⟨({} : Coordinator).startSigning "frost_0" "q" "00" duoConfig 0, 0⟩
  nextCall := 1

/-- A session for another query is started later. -/
def twoStarted : CallState SignShared Pending where
  shared := ⟨oneStarted.shared.coordinator.startSigning "frost_1" "p" "00" duoConfig 1800001, 1800001⟩
  nextCall := 2

theorem run_oneStarted : ∃ tr, Run (service .safeIntegers (some duoConfig)).machine Lawful
    (noSessions 0) tr oneStarted :=
  ⟨_, Run.start.next (a := .begin ⟨0, .startSigning "frost_0" "q" "00" duoConfig⟩)
    (by decide) rfl⟩

theorem run_twoStarted : ∃ tr, Run (service .safeIntegers (some duoConfig)).machine Lawful
    (noSessions 0) tr twoStarted := by
  obtain ⟨_, hrun⟩ := run_oneStarted
  exact ⟨_, hrun.next (a := .begin ⟨1800001, .startSigning "frost_1" "p" "00" duoConfig⟩)
    (by decide) rfl⟩

/-- Then `q` is looked up. Its session is gone, and the route says so. -/
theorem session_lookup_evicted : ∃ tr s' evs,
    Run (service .safeIntegers (some duoConfig)).machine Lawful (noSessions 0) tr twoStarted ∧
    (service .safeIntegers (some duoConfig)).machine.step twoStarted (.begin ⟨1800001, .getSign "q"⟩)
      = some (s', evs) ∧
    LookupRight (some duoConfig) twoStarted s' evs (.begin ⟨1800001, .getSign "q"⟩) := by
  obtain ⟨tr, hrun⟩ := run_twoStarted
  have hlawful : Lawful twoStarted (.begin ⟨1800001, .getSign "q"⟩) := by decide
  have hlatest : twoStarted.shared.coordinator.latestLive "q" 1800001 = none :=
    Option.isNone_iff_eq_none.mp (by decide)
  refine ⟨tr, _, _, hrun, rfl, (session_lookup_iff hrun hlawful rfl).mpr ?_⟩
  refine ⟨nothingStale_startSigning .., ?_⟩
  unfold Answerable
  rw [hlatest]
  decide

/-- The live session of a query is not found, and half an hour later its session can still be
looked up. -/
theorem session_lookup_wrong : ∃ tr s₁ s₂ session,
    Run (service .safeIntegers (some duoConfig)).machine Lawful (noSessions 0) tr oneStarted ∧
    (service .safeIntegers (some duoConfig)).machine.step oneStarted (.begin ⟨1, .getSign "q"⟩)
      = some (s₁, [⟨1, .response (errorResponse 404 "Signing session not found")⟩]) ∧
    oneStarted.shared.coordinator.latestLive "q" 1 = some session ∧
    (service .safeIntegers (some duoConfig)).machine.step s₁
      (.begin ⟨1800001, .getSigningSession "frost_0"⟩)
      = some (s₂, [⟨2, .signingSession (some session)⟩]) ∧
    session.stale 1800001 = true := by
  obtain ⟨tr, hrun⟩ := run_oneStarted
  exact ⟨tr, _, _, _, hrun, rfl, rfl, rfl, by decide⟩

end Anchr.Frost
