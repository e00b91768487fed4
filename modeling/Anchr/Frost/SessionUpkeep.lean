import Anchr.Frost.SignRoutes

/-!
# How the coordinator keeps its sessions

What the turns of `SignRoutes.service` do to the three maps, over whole runs.
-/

namespace Anchr.Frost

open Infra SignRoutes

/-! ## Reading the maps -/

variable {session : FrostSigningSession} {sessionId : String} {ref : Nat}

theorem find_eq_some {c : Coordinator} : c.find sessionId = some (ref, session) ↔
      c.signingSessions.get? sessionId = some ref ∧ c.objects[ref]? = some session := by
  unfold Coordinator.find
  constructor
  · intro h
    obtain ⟨r, hr, h⟩ := Option.bind_eq_some_iff.mp h
    obtain ⟨s, hs, heq⟩ := Option.map_eq_some_iff.mp h
    cases heq
    exact ⟨hr, hs⟩
  · rintro ⟨hr, hs⟩
    simp [hr, hs]

theorem getSigningSession_eq_some {c : Coordinator} : c.getSigningSession sessionId = some session ↔
      ∃ ref, c.signingSessions.get? sessionId = some ref ∧ c.objects[ref]? = some session := by
  unfold Coordinator.getSigningSession
  rw [Option.map_eq_some_iff]
  constructor
  · rintro ⟨⟨ref, s⟩, hfind, rfl⟩
    exact ⟨ref, find_eq_some.mp hfind⟩
  · rintro ⟨ref, h⟩
    exact ⟨(ref, session), find_eq_some.mpr h, rfl⟩

/-! ## Eviction -/

/-- The loop over the signing sessions deletes from one map, as far as lookups can tell. -/
theorem foldl_evictSigning (now : Int) : ∀ (l : List (String × Nat)) (c : Coordinator),
    (l.foldl (Coordinator.evictSigning now) c).objects = c.objects ∧
    (l.foldl (Coordinator.evictSigning now) c).dkgSessions = c.dkgSessions ∧
    (l.foldl (Coordinator.evictSigning now) c).signingSessions
      = l.foldl (fun m e => if (c.objects[e.2]?).any (·.stale now) then m.delete e.1 else m)
          c.signingSessions
  | [], c => ⟨rfl, rfl, rfl⟩
  | e :: l, c => by
    obtain ⟨hobjects, hdkg, hsigning⟩ := foldl_evictSigning now l (c.evictSigning now e)
    have hround : (c.evictSigning now e).objects = c.objects ∧
        (c.evictSigning now e).dkgSessions = c.dkgSessions ∧
        (c.evictSigning now e).signingSessions = if (c.objects[e.2]?).any (·.stale now)
          then c.signingSessions.delete e.1 else c.signingSessions := by
      unfold Coordinator.evictSigning
      cases hobject : c.objects[e.2]? with
      | none => simp
      | some session =>
        by_cases hstale : session.stale now = true
        · simp [hstale]
        · simp [hstale]
    obtain ⟨h1, h2, h3⟩ := hround
    rw [List.foldl_cons, List.foldl_cons, hobjects, hdkg, hsigning, h1, h2, h3]
    exact ⟨rfl, rfl, rfl⟩

variable {c c' : Coordinator} {now : Int}

theorem evict_objects (c : Coordinator) (now : Int) : (c.evictStaleSessions now).objects = c.objects :=
  (foldl_evictSigning now _ _).1

theorem evict_signing :
    (c.evictStaleSessions now).signingSessions.get? sessionId = some ref ↔
      c.signingSessions.get? sessionId = some ref ∧
        (c.objects[ref]?).any (·.stale now) = false := by
  unfold Coordinator.evictStaleSessions
  dsimp only
  rw [(foldl_evictSigning now _ _).2.2]
  exact JsMap.get?_sweep (fun e => (c.objects[e.2]?).any (·.stale now)) c.signingSessions sessionId ref

theorem evict_dkg {session : DkgSession} :
    (c.evictStaleSessions now).dkgSessions.get? sessionId = some session ↔
      c.dkgSessions.get? sessionId = some session ∧ session.stale now = false := by
  unfold Coordinator.evictStaleSessions
  dsimp only
  rw [(foldl_evictSigning now _ _).2.1]
  exact JsMap.get?_sweep (fun e => e.2.stale now) c.dkgSessions sessionId session

/-! ## Assignments -/

theorem getSigningSession_modify {f : FrostSigningSession → FrostSigningSession} :
    (c.modify ref f).getSigningSession sessionId = some session ↔
      ∃ r s, c.find sessionId = some (r, s) ∧ session = if r = ref then f s else s := by
  rw [getSigningSession_eq_some]
  show (∃ r, c.signingSessions.get? sessionId = some r ∧ (c.objects.modify ref f)[r]? = some session)
    ↔ _
  constructor
  · rintro ⟨r, hget, hobject⟩
    rw [List.getElem?_modify] at hobject
    obtain ⟨s, hs, rfl⟩ := Option.map_eq_some_iff.mp hobject
    exact ⟨r, s, find_eq_some.mpr ⟨hget, hs⟩, by simp [eq_comm]⟩
  · rintro ⟨r, s, hfind, rfl⟩
    obtain ⟨hget, hs⟩ := find_eq_some.mp hfind
    refine ⟨r, hget, ?_⟩
    rw [List.getElem?_modify, hs]
    simp [eq_comm]

/-! ## Live sessions are stored -/

variable {clock : Int}

theorem stale_mono (hle : clock ≤ now) (h : session.stale now = false) :
    session.stale clock = false := by
  unfold FrostSigningSession.stale at h ⊢
  simp only [Bool.or_eq_false_iff, Bool.and_eq_false_iff, decide_eq_false_iff_not,
    Int.not_lt] at h ⊢
  refine ⟨by omega, h.2.imp id fun hyoung => by omega⟩

/-- A reference leads to the session with its id, and a session that is not stale can be looked up. -/
structure Stored (s : SignShared) : Prop where
  keyed : ∀ sessionId ref, s.coordinator.signingSessions.get? sessionId = some ref →
    ∃ session, s.coordinator.objects[ref]? = some session ∧ session.sessionId = sessionId
  kept : ∀ ref session, s.coordinator.objects[ref]? = some session →
    session.stale s.clock = false →
      s.coordinator.signingSessions.get? session.sessionId = some ref

/-- Entries are made in sessions that are there; none becomes stale by it. -/
inductive Minor (c : Coordinator) : Coordinator → Prop
  | same : Minor c c
  | dkg {sessionId : String} {session session' : DkgSession}
      (hget : c.dkgSessions.get? sessionId = some session)
      (hcreated : session'.createdAt = session.createdAt) :
      Minor c { c with dkgSessions := c.dkgSessions.set sessionId session' }
  | assign (ref : Nat) (f : FrostSigningSession → FrostSigningSession)
      (hf : ∀ s, (f s).sessionId = s.sessionId ∧ ∀ now, (f s).stale now = s.stale now) :
      Minor c (c.modify ref f)

inductive Change (now : Int) (c : Coordinator) : Coordinator → Prop
  | minor {c' : Coordinator} (h : Minor c c') : Change now c c'
  | initDkg (sessionId : String) (threshold total : Nat) :
      Change now c (c.initDkg sessionId threshold total now)
  | start (sessionId queryId message : String) (config : ThresholdOracleConfig) :
      (∀ session ∈ c.objects, session.sessionId ≠ sessionId) →
        Change now c (c.startSigning sessionId queryId message config now)
  | aggregated (ref : Nat) (result : FrostCliResult) :
      Change now c (c.modify ref fun s => s.aggregated result)

theorem Stored.evict {s : SignShared} (h : Stored s) (hle : s.clock ≤ now) :
    Stored ⟨s.coordinator.evictStaleSessions now, now⟩ where
  keyed := by
    intro sessionId ref hget
    rw [evict_objects]
    exact h.keyed sessionId ref (evict_signing.mp hget).1
  kept := by
    intro ref session hobject hlive
    rw [evict_objects] at hobject
    refine evict_signing.mpr ⟨h.kept ref session hobject (stale_mono hle hlive), ?_⟩
    rw [hobject]
    exact hlive

theorem Stored.modify {s : SignShared} (h : Stored s) (hle : s.clock ≤ now)
    {f : FrostSigningSession → FrostSigningSession}
    (hf : ∀ s, (f s).sessionId = s.sessionId ∧ ∀ t, (f s).stale t = false → s.stale t = false) :
    Stored ⟨s.coordinator.modify ref f, now⟩ := by
  constructor
  · intro id r hget
    obtain ⟨session, hobject, hid⟩ := h.keyed id r hget
    refine ⟨if ref = r then f session else session, ?_, ?_⟩
    · show (s.coordinator.objects.modify ref f)[r]? = _
      rw [List.getElem?_modify, hobject]
      simp
    · split
      · rw [(hf session).1, hid]
      · exact hid
  · intro r session hobject hlive
    have hobject' : (s.coordinator.objects.modify ref f)[r]? = some session := hobject
    rw [List.getElem?_modify] at hobject'
    obtain ⟨before, hbefore, rfl⟩ := Option.map_eq_some_iff.mp hobject'
    have hsame : (if ref = r then f before else before).sessionId = before.sessionId ∧
        before.stale now = false := by
      split at hlive
      next heq =>
        rw [if_pos heq]
        exact ⟨(hf before).1, (hf before).2 _ hlive⟩
      next hne =>
        rw [if_neg hne]
        exact ⟨rfl, hlive⟩
    have hkept := h.kept r before hbefore (stale_mono hle hsame.2)
    rw [← hsame.1] at hkept
    exact hkept

theorem stale_aggregated {result : FrostCliResult} {t : Int}
    (h : (session.aggregated result).stale t = false) : session.stale t = false := by
  unfold FrostSigningSession.aggregated at h
  split at h
  next =>
    unfold FrostSigningSession.stale at h ⊢
    simp only [Bool.or_eq_false_iff, Bool.true_and] at h
    simp [h.1, h.2]
  next => exact h

theorem Stored.change {s : SignShared} (h : Stored s) (hle : s.clock ≤ now)
    (hchange : Change now s.coordinator c') : Stored ⟨c', now⟩ := by
  cases hchange with
  | minor hminor =>
    cases hminor with
    | same | dkg =>
      exact ⟨h.keyed, fun ref session hobject hlive => h.kept ref session hobject
        (stale_mono hle hlive)⟩
    | assign ref f hf => exact h.modify hle fun s => ⟨(hf s).1, fun t ht => (hf s).2 t ▸ ht⟩
  | aggregated ref result =>
    refine h.modify hle fun s => ⟨?_, fun t => stale_aggregated⟩
    unfold FrostSigningSession.aggregated
    split <;> rfl
  | initDkg sessionId threshold total => exact ⟨(h.evict hle).keyed, (h.evict hle).kept⟩
  | start sessionId queryId message config hfresh =>
    have hevict := h.evict hle
    rw [← evict_objects s.coordinator now] at hfresh
    constructor
    · intro id ref hget
      rcases JsMap.get?_of_set hget with ⟨rfl, rfl⟩ | hold
      · exact ⟨_, List.getElem?_concat_length .., rfl⟩
      · obtain ⟨session, hobject, hid⟩ := hevict.keyed id ref hold
        refine ⟨session, ?_, hid⟩
        show (_ ++ _)[ref]? = _
        rw [List.getElem?_append_left (List.getElem?_eq_some_iff.mp hobject).1, hobject]
    · intro ref session hobject hlive
      have hobject' : ((s.coordinator.evictStaleSessions now).objects ++
          [.started sessionId queryId message config now])[ref]? = some session := hobject
      show ((s.coordinator.evictStaleSessions now).signingSessions.set sessionId
        (s.coordinator.evictStaleSessions now).objects.length).get? session.sessionId = some ref
      rcases Nat.lt_trichotomy ref (s.coordinator.evictStaleSessions now).objects.length with
        hlt | heq | hgt
      · rw [List.getElem?_append_left hlt] at hobject'
        rw [JsMap.get?_set_ne _ _ (hfresh session (List.mem_of_getElem? hobject'))]
        exact hevict.kept ref session hobject' hlive
      · subst heq
        rw [List.getElem?_concat_length] at hobject'
        rw [← Option.some.inj hobject']
        exact JsMap.get?_set_self _ _ _
      · rw [List.getElem?_eq_none (by simp; omega)] at hobject'
        cases hobject'

/-! ## Turns -/

def SignOperation.draws : SignOperation → Option String
  | .startSigning sessionId _ _ _ => some sessionId
  | .postSign _ _ sessionId => some sessionId
  | _ => none

/-- Time does not go back, and a random id is new. -/
def Lawful (s : CallState SignShared Pending) : CallAction (Timed SignOperation) (Timed Answer) → Prop
  | .begin r => s.shared.clock ≤ r.now ∧ ∀ sessionId ∈ r.value.draws,
      ∀ session ∈ s.shared.coordinator.objects, session.sessionId ≠ sessionId
  | .resume _ b => s.shared.clock ≤ b.now

instance (s : CallState SignShared Pending) (a : CallAction (Timed SignOperation) (Timed Answer)) :
    Decidable (Lawful s a) := by
  unfold Lawful
  cases a <;> infer_instance

variable {T : NumberText} {frostConfig : Option ThresholdOracleConfig} {shared : SignShared}
  {call : Nat}

theorem minor_submitNonceCommitment (sessionId signerPubkey commitment : String) :
    Minor c (c.submitNonceCommitment sessionId signerPubkey commitment) := by
  unfold Coordinator.submitNonceCommitment
  split
  next => exact .same
  refine .assign _ _ fun s => ?_
  unfold FrostSigningSession.submitNonceCommitment
  split <;> exact ⟨rfl, fun _ => rfl⟩

theorem minor_submitSignatureShare (sessionId signerPubkey share : String) :
    Minor c (c.submitSignatureShare sessionId signerPubkey share) := by
  unfold Coordinator.submitSignatureShare
  split
  next => exact .same
  refine .assign _ _ fun s => ?_
  unfold FrostSigningSession.submitSignatureShare
  split <;> exact ⟨rfl, fun _ => rfl⟩

theorem createdAt_submit {session session' : DkgSession} {sub : DkgSubmission}
    {result : Option DkgRoundResult} (h : session.submit T sub = some (session', result)) :
    session'.createdAt = session.createdAt := by
  have hclose : ∀ (s : DkgSession) round count r,
      (s.closeRound round count r).1.createdAt = s.createdAt := by
    intro s round count r
    unfold DkgSession.closeRound
    split <;> rfl
  have hread : ∀ (s : DkgSession) text, (s.readKeyPackage T text).createdAt = s.createdAt := by
    intro s text
    unfold DkgSession.readKeyPackage
    split <;> rfl
  unfold DkgSession.submit at h
  split at h
  next =>
    obtain rfl : (session.submitRound1 sub).1 = session' := by rw [Option.some.inj h]
    exact hclose ..
  split at h
  next =>
    split at h
    next => simp at h
    next => simp at h
    next packages _ _ =>
      obtain rfl : (session.submitRound2 sub packages).1 = session' := by rw [Option.some.inj h]
      exact hclose ..
  split at h
  next =>
    obtain rfl : (session.submitRound3 T sub).1 = session' := by rw [Option.some.inj h]
    exact (hclose ..).trans (hread ..)
  cases h
  rfl

theorem minor_submitDkgPackage (sessionId : String) (sub : DkgSubmission) :
    Minor c (c.submitDkgPackage T sessionId sub).1 := by
  unfold Coordinator.submitDkgPackage
  split
  next => exact .same
  next hget =>
    split
    next => exact .same
    next hsubmit => exact .dkg hget (createdAt_submit hsubmit)

/-- The operation begins a session, and evicts stale ones before. -/
def SignOperation.evicts : SignOperation → Bool
  | .initDkg .. | .startSigning .. | .postSign .. => true
  | _ => false

theorem begin_minor (r : Timed SignOperation) (hop : r.value.evicts = false) :
    ∃ c', (begin T frostConfig shared call r).shared = ⟨c', r.now⟩ ∧
      Minor shared.coordinator c' := by
  obtain ⟨now, op⟩ := r
  cases op with
  | initDkg | startSigning | postSign => cases hop
  | getDkgSession | getSigningSession | getSign => exact ⟨_, rfl, .same⟩
  | submitDkgPackage => exact ⟨_, rfl, minor_submitDkgPackage ..⟩
  | submitNonceCommitment => exact ⟨_, rfl, minor_submitNonceCommitment ..⟩
  | submitSignatureShare => exact ⟨_, rfl, minor_submitSignatureShare ..⟩
  | tryAggregate =>
    refine ⟨shared.coordinator, ?_, .same⟩
    simp only [begin]
    split <;> rfl
  | postCommitments =>
    simp only [begin, postCommitments]
    split
    next =>
      split
      next => exact ⟨_, rfl, .same⟩
      next => exact ⟨_, rfl, minor_submitNonceCommitment ..⟩
    next => exact ⟨_, rfl, .same⟩
  | postShares =>
    simp only [begin, postShares]
    split
    next sessionId signerPubkey share =>
      split
      next => exact ⟨_, rfl, .same⟩
      refine ⟨_, ?_, minor_submitSignatureShare sessionId signerPubkey share⟩
      split
      next => rfl
      next => split <;> rfl
    next => exact ⟨_, rfl, .same⟩

theorem begin_change (r : Timed SignOperation)
    (hfresh : ∀ sessionId ∈ r.value.draws, ∀ session ∈ shared.coordinator.objects,
      session.sessionId ≠ sessionId) :
    ∃ c', (begin T frostConfig shared call r).shared = ⟨c', r.now⟩ ∧
      Change r.now shared.coordinator c' := by
  by_cases hop : r.value.evicts = false
  · obtain ⟨c', hshared, hminor⟩ := begin_minor r hop
    exact ⟨c', hshared, .minor hminor⟩
  obtain ⟨now, op⟩ := r
  cases op with
  | initDkg => exact ⟨_, rfl, .initDkg ..⟩
  | startSigning sessionId => exact ⟨_, rfl, .start _ _ _ _ (hfresh sessionId rfl)⟩
  | postSign _ _ sessionId =>
    simp only [begin, postSign]
    split
    next => exact ⟨_, rfl, .minor .same⟩
    split
    next => exact ⟨_, rfl, .minor .same⟩
    next => exact ⟨_, rfl, .start _ _ _ _ (hfresh sessionId rfl)⟩
  | _ => exact absurd rfl hop

theorem resume_change {p : Pending} {b : Timed Answer} {turn : Turn}
    (h : resume shared call p b = some turn) :
    ∃ c', turn.shared = ⟨c', b.now⟩ ∧ Change b.now shared.coordinator c' := by
  unfold resume at h
  split at h
  next =>
    cases h
    exact ⟨_, rfl, .minor .same⟩
  next ref route result _ =>
    cases h
    refine ⟨_, ?_, .aggregated ref result⟩
    cases route <;> rfl
  next =>
    cases h
    exact ⟨_, rfl, .minor .same⟩
  next => simp at h

def actionTime : CallAction (Timed SignOperation) (Timed Answer) → Int
  | .begin r => r.now
  | .resume _ b => b.now

variable {s s' : CallState SignShared Pending}
  {a : CallAction (Timed SignOperation) (Timed Answer)} {evs tr : List SignEvent}

theorem step_change (hlawful : Lawful s a)
    (hstep : (service T frostConfig).machine.step s a = some (s', evs)) :
    s.shared.clock ≤ actionTime a ∧ ∃ c', s'.shared = ⟨c', actionTime a⟩ ∧
      Change (actionTime a) s.shared.coordinator c' := by
  obtain ⟨call, turn, htakes, hshared, -, -⟩ := CallService.takes_of_step hstep
  cases htakes with
  | begin r =>
    rw [hshared]
    exact ⟨hlawful.1, begin_change r hlawful.2⟩
  | resume hp hresume =>
    rw [hshared]
    exact ⟨hlawful, resume_change hresume⟩

/-- Nothing is stored. -/
def noSessions (clock : Int) : CallState SignShared Pending := { shared := { clock } }

/-- A reference leads to the session with its id, and a session that is not stale can be looked up
under its id. -/
theorem stored_of_run (hrun : Run (service T frostConfig).machine Lawful (noSessions clock) tr s) :
    Stored s.shared := by
  refine hrun.invariant (I := fun _ s => Stored s.shared) ?_ ?_
  · exact ⟨by simp [noSessions], by simp [noSessions]⟩
  · intro tr s a s' evs hs hlawful hstep
    obtain ⟨hle, c', hshared, hchange⟩ := step_change hlawful hstep
    rw [hshared]
    exact hs.change hle hchange

end Anchr.Frost
