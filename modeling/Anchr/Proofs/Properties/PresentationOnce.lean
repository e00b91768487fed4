import Anchr.Proofs.TlsnProcess

/-!
# A presentation is accepted once

`validateTlsn` asks the guard when it begins and marks the presentation when it ends, and the guard
knows texts, forgets after seven days and holds a bounded number of them. Where none of this
matters, no presentation is accepted twice, whatever else the process does.
-/

namespace Anchr.Proofs

open Infra

/-- The default `retentionMs` of the guard. -/
def sevenDaysMs : Int := 7 * 24 * 60 * 60 * 1000

section

variable (decode : String → List UInt8)

def TlsnEvent.acceptsBytes (bytes : List UInt8) : TlsnEvent → Bool
  | .ended _ presentation result _ => result.accepted && decode presentation == bytes
  | .threw _ => false

/-- Of the calls for the same bytes, at most one is accepted. -/
def AtMostOnce (tr : List TlsnEvent) : Prop :=
  ∀ bytes, (tr.filter (·.acceptsBytes decode bytes)).length ≤ 1

variable (timeOf : List UInt8 → Option JsNumber)

/-- A call is for the base64 text of its bytes, at a time when no other call for it is under way,
and allows no greater age than seven days. The guard has room for one more entry when a sidecar has
run, and the sidecar reports the time that is in the presentation. The clock does not go back. -/
def Careful (s : TlsnProcess) : TlsnAction → Prop
  | .validate presentation requirement _ now =>
    base64Encode (decode presentation) = presentation ∧
    (∀ call v, s.calls.get? call = some v → v.presentation ≠ presentation) ∧
    ((maxAgeSeconds requirement).scale 1000).le (.ofInt sevenDaysMs) = true ∧ s.clock ≤ now
  | .sidecar call run now =>
    (∀ v out, s.calls.get? call = some v → run = .printed (some out) →
      out.time = timeOf (decode v.presentation)) ∧
    s.guard.maxEntries.lt (.ofInt (s.guard.seen.entries.length + 1)) = false ∧ s.clock ≤ now

variable (R : TlsnTools)

def Aged (clock time : Int) : Prop := time < clock - sevenDaysMs

/-- The guard holds the presentation that was accepted at `time`, unless it is past its days. -/
def Held (s : TlsnProcess) (presentation : String) (time : Int) : Prop :=
  (∃ added : Int, time ≤ added ∧
    s.guard.seen.get? (presentationHash R presentation) = some (.ofInt added)) ∨
  Aged s.clock time

/-- The invariant: an accepted presentation is in the guard, or too old to be fresh. -/
structure Knows (tr : List TlsnEvent) (s : TlsnProcess) : Prop where
  retention : s.guard.retentionMs = .ofInt sevenDaysMs
  room : s.guard.Roomy
  spelled : ∀ call v, s.calls.get? call = some v →
    base64Encode (decode v.presentation) = v.presentation
  within : ∀ call v, s.calls.get? call = some v →
    ((maxAgeSeconds v.requirement).scale 1000).le (.ofInt sevenDaysMs) = true
  alone : ∀ call call' v v', s.calls.get? call = some v → s.calls.get? call' = some v' →
    v.presentation = v'.presentation → call = call'
  accepted : ∀ e ∈ tr, ∀ presentation time, e.Accepts presentation time →
    base64Encode (decode presentation) = presentation ∧
    (∃ made : ℚ, timeOf (decode presentation) = some (.fin made) ∧ made * 1000 ≤ time) ∧
    time ≤ s.clock ∧ Held R s presentation time
  /-- What a call under way could accept again is past its days. -/
  pending : ∀ call v, s.calls.get? call = some v → ∀ e ∈ tr, ∀ time,
    e.Accepts v.presentation time → Aged s.clock time
  once : AtMostOnce decode tr

end

variable {R : TlsnTools} {decode : String → List UInt8} {timeOf : List UInt8 → Option JsNumber}

/-! ## The guard and the clock -/

variable {time now : Int} {s : TlsnProcess} {presentation : String} {call : Nat}
  {tr evs : List TlsnEvent} {run : SidecarRun} {v : Validation}

theorem Aged.mono {clock clock' : Int} (h : Aged clock time) (hle : clock ≤ clock') :
    Aged clock' time := by
  unfold Aged at h ⊢
  omega

variable {g : ReplayGuard} {made : ℚ} {s' : TlsnProcess} {crypto : VerifierBinaryResult}

theorem live_of_not_aged (hret : g.retentionMs = .ofInt sevenDaysMs) {added : Int}
    (hadded : time ≤ added) (h : ¬Aged now time) :
    ((JsNumber.ofInt now).sub g.retentionMs).le (.ofInt added) = true := by
  unfold Aged at h
  rw [hret, JsNumber.sub_ofInt, JsNumber.le_ofInt, decide_eq_true_iff]
  omega

theorem held_evict (hret : s.guard.retentionMs = .ofInt sevenDaysMs) (hroom : s.guard.Roomy)
    (hclock : s.clock ≤ now) (h : Held R s presentation time) (s' : TlsnProcess)
    (hguard : s'.guard = s.guard.evict (.ofInt now)) (hclock' : s'.clock = now) :
    Held R s' presentation time := by
  unfold Held
  rw [hguard, hclock']
  rcases h with ⟨added, hadded, hget⟩ | haged
  · by_cases hnow : Aged now time
    · exact .inr hnow
    · exact .inl ⟨added, hadded,
        ReplayGuard.get?_evict_of_live hroom hget (live_of_not_aged hret hadded hnow)⟩
  · exact .inr (haged.mono hclock)

theorem held_add {key : String} (hret : s.guard.retentionMs = .ofInt sevenDaysMs)
    (hroom : s.guard.maxEntries.lt (.ofInt (s.guard.seen.entries.length + 1)) = false)
    (hclock : s.clock ≤ now) (htime : time ≤ now) (h : Held R s presentation time)
    (s' : TlsnProcess) (hguard : s'.guard = s.guard.add key (.ofInt now))
    (hclock' : s'.clock = now) : Held R s' presentation time := by
  unfold Held
  rw [hguard, hclock']
  by_cases hnow : Aged now time
  · exact .inr hnow
  · rcases h with ⟨added, hadded, hget⟩ | haged
    · refine .inl ?_
      by_cases hkey : presentationHash R presentation = key
      · refine ⟨now, htime, ReplayGuard.get?_add hroom ?_ (live_of_not_aged hret htime hnow)⟩
        rw [hkey, JsMap.get?_set_self]
      · refine ⟨added, hadded, ReplayGuard.get?_add hroom ?_
          (live_of_not_aged hret hadded hnow)⟩
        rw [JsMap.get?_set_ne _ _ hkey, hget]
    · exact .inr (haged.mono hclock)

/-- A presentation made before an acceptance that is past its days is not fresh any more. -/
theorem not_fresh_of_aged {tlsn : TlsnRequirement}
    (hwithin : ((maxAgeSeconds tlsn).scale 1000).le (.ofInt sevenDaysMs) = true)
    (hmade : made * 1000 ≤ time) (haged : Aged now time) :
    isFresh tlsn (.ofInt now) (.fin made) = false := by
  cases hfresh : isFresh tlsn (.ofInt now) (.fin made) with
  | false => rfl
  | true =>
    obtain ⟨t, n, ht, hn, -, hyoung⟩ := fresh_finite hfresh
    obtain rfl := JsNumber.fin.inj ht
    obtain rfl : ((now : Int) : ℚ) = n := JsNumber.fin.inj hn
    have hlt := JsNumber.lt_of_lt_of_le_ofInt hyoung hwithin
    unfold Aged at haged
    have hcast : (time : ℚ) < now - sevenDaysMs := by exact_mod_cast haged
    linarith

/-! ## Steps that accept nothing -/

def Quiet (evs : List TlsnEvent) : Prop := ∀ e ∈ evs, ∀ presentation time,
  ¬e.Accepts presentation time

theorem quiet_nil : Quiet [] := by
  intro e he
  cases he

theorem quiet_ended {result : TlsnValidationResult} (h : result.accepted = false) :
    Quiet [.ended call presentation result time] := by
  intro e he presentation' time' haccepts
  rw [List.mem_singleton.mp he] at haccepts
  obtain ⟨haccepted, -⟩ := haccepts
  rw [h] at haccepted
  cases haccepted

theorem accepts_of_acceptsBytes {bytes : List UInt8} {e : TlsnEvent}
    (h : e.acceptsBytes decode bytes = true) :
    ∃ presentation time, e.Accepts presentation time ∧ decode presentation = bytes := by
  cases e with
  | ended call presentation result time =>
    obtain ⟨haccepted, hbytes⟩ := (Bool.and_eq_true _ _).mp h
    exact ⟨presentation, time, ⟨haccepted, rfl, rfl⟩, eq_of_beq hbytes⟩
  | threw => cases h

theorem AtMostOnce.append_quiet (h : AtMostOnce decode tr) (hevs : Quiet evs) :
    AtMostOnce decode (tr ++ evs) := by
  intro bytes
  have hnone : evs.filter (·.acceptsBytes decode bytes) = [] := by
    rw [List.filter_eq_nil_iff]
    intro e he hacc
    obtain ⟨presentation, time, haccepts, -⟩ := accepts_of_acceptsBytes hacc
    exact hevs e he presentation time haccepts
  rw [List.filter_append, hnone, List.append_nil]
  exact h bytes

/-- A step that accepts nothing, begins no call and lets the guard forget nothing it has to hold. -/
theorem Knows.quiet (h : Knows decode timeOf R tr s)
    (hret : s'.guard.retentionMs = s.guard.retentionMs) (hroom : s'.guard.Roomy)
    (hclock : s.clock ≤ s'.clock)
    (hcalls : ∀ call v, s'.calls.get? call = some v → s.calls.get? call = some v)
    (hheld : ∀ presentation time, time ≤ s.clock → Held R s presentation time →
      Held R s' presentation time) (hevs : Quiet evs) : Knows decode timeOf R (tr ++ evs) s' where
  retention := hret.trans h.retention
  room := hroom
  spelled := fun call v hcall => h.spelled call v (hcalls call v hcall)
  within := fun call v hcall => h.within call v (hcalls call v hcall)
  alone := fun call call' v v' hcall hcall' =>
    h.alone call call' v v' (hcalls call v hcall) (hcalls call' v' hcall')
  accepted := by
    intro e he presentation time haccepts
    rcases List.mem_append.mp he with he | he
    · obtain ⟨hspelled, hmade, htime, hkept⟩ := h.accepted e he presentation time haccepts
      exact ⟨hspelled, hmade, htime.trans hclock, hheld presentation time htime hkept⟩
    · exact absurd haccepts (hevs e he presentation time)
  pending := by
    intro call v hcall e he time haccepts
    rcases List.mem_append.mp he with he | he
    · exact (h.pending call v (hcalls call v hcall) e he time haccepts).mono hclock
    · exact absurd haccepts (hevs e he _ time)
  once := h.once.append_quiet hevs

/-! ## A call begins -/

theorem Knows.begin {requirement : TlsnRequirement} (h : Knows decode timeOf R tr s)
    (hspelled : base64Encode (decode presentation) = presentation)
    (hother : ∀ call v, s.calls.get? call = some v → v.presentation ≠ presentation)
    (hwithin : ((maxAgeSeconds requirement).scale 1000).le (.ofInt sevenDaysMs) = true)
    (hclock : s.clock ≤ now)
    (hnew : s.guard.remembers (presentationHash R presentation) (.ofInt now) = false) :
    Knows decode timeOf R tr
      { guard := s.guard.evict (.ofInt now)
        calls := s.calls.set s.nextCall { presentation, requirement }
        nextCall := s.nextCall + 1
        clock := now } := by
  -- everything but the new call is as after a step that only evicts
  have hkept : Knows decode timeOf R (tr ++ [])
      { s with guard := s.guard.evict (.ofInt now), clock := now } :=
    h.quiet rfl (h.room.evict _) hclock (fun _ _ hcall => hcall)
      (fun p time _ hheld => held_evict h.retention h.room hclock hheld _ rfl rfl) quiet_nil
  rw [List.append_nil] at hkept
  have hnone : (s.guard.evict (.ofInt now)).seen.get? (presentationHash R presentation) = none := by
    simpa [ReplayGuard.remembers, JsMap.has] using hnew
  refine ⟨hkept.retention, hkept.room, ?_, ?_, ?_, hkept.accepted, ?_, hkept.once⟩
  · intro call v hcall
    rcases JsMap.get?_of_set hcall with ⟨-, rfl⟩ | hold
    · exact hspelled
    · exact hkept.spelled call v hold
  · intro call v hcall
    rcases JsMap.get?_of_set hcall with ⟨-, rfl⟩ | hold
    · exact hwithin
    · exact hkept.within call v hold
  · intro call call' v v' hcall hcall' hsame
    rcases JsMap.get?_of_set hcall with ⟨rfl, rfl⟩ | hold
    · rcases JsMap.get?_of_set hcall' with ⟨rfl, -⟩ | hold'
      · rfl
      · exact absurd hsame.symm (hother call' v' hold')
    · rcases JsMap.get?_of_set hcall' with ⟨-, rfl⟩ | hold'
      · exact absurd hsame (hother call v hold)
      · exact hkept.alone call call' v v' hold hold' hsame
  · intro call v hcall e he time haccepts
    rcases JsMap.get?_of_set hcall with ⟨-, rfl⟩ | hold
    · -- the guard did not hold it, so it is past its days
      obtain ⟨-, -, -, hheld⟩ := hkept.accepted e he presentation time haccepts
      rcases hheld with ⟨added, -, hget⟩ | haged
      · rw [hnone] at hget
        cases hget
      · exact haged
    · exact hkept.pending call v hold e he time haccepts

/-! ## A call ends -/

theorem fresh_of_accepted (hrun : runVerifierBinary run = some crypto)
    (htime : ∀ out, run = .printed (some out) → out.time = timeOf (decode v.presentation))
    (haccepted : (finishValidateTlsn R g (.ofInt now) v.presentation v.requirement
      crypto).2.accepted = true) :
    ∃ made : ℚ, timeOf (decode v.presentation) = some (.fin made) ∧ made * 1000 ≤ now ∧
      isFresh v.requirement (.ofInt now) (.fin made) = true := by
  obtain ⟨hestablishes, time, hverified, hfresh⟩ :=
    finish_failures_eq_nil.mp (failures_of_accepted haccepted)
  obtain ⟨out, rfl, -, -, -, hclock⟩ := runVerifierBinary_valid hrun hestablishes.signature
  obtain ⟨made, n, rfl, hn, hpast, -⟩ := fresh_finite hfresh
  obtain rfl : ((now : Int) : ℚ) = n := JsNumber.fin.inj hn
  refine ⟨made, ?_, hpast, hfresh⟩
  rw [← htime out rfl, ← hclock, hverified]

theorem Knows.not_accepted_before (h : Knows decode timeOf R tr s)
    (hcall : s.calls.get? call = some v) (hclock : s.clock ≤ now)
    (hmade : timeOf (decode v.presentation) = some (.fin made))
    (hfresh : isFresh v.requirement (.ofInt now) (.fin made) = true) :
    tr.filter (·.acceptsBytes decode (decode v.presentation)) = [] := by
  rw [List.filter_eq_nil_iff]
  intro e he hacc
  obtain ⟨presentation, time, haccepts, hbytes⟩ := accepts_of_acceptsBytes hacc
  obtain ⟨hspelled, ⟨made', hmade', hpast⟩, -, -⟩ := h.accepted e he presentation time haccepts
  -- both texts are the base64 text of the same bytes
  obtain rfl : presentation = v.presentation := by
    rw [← hspelled, hbytes, h.spelled call v hcall]
  obtain rfl : made = made' := JsNumber.fin.inj (Option.some.inj (hmade.symm.trans hmade'))
  have haged := (h.pending call v hcall e he time haccepts).mono hclock
  rw [not_fresh_of_aged (h.within call v hcall) hpast haged] at hfresh
  cases hfresh

theorem Knows.mark (h : Knows decode timeOf R tr s) (hcall : s.calls.get? call = some v)
    (hrun : runVerifierBinary run = some crypto)
    (htime : ∀ out, run = .printed (some out) → out.time = timeOf (decode v.presentation))
    (hroom : s.guard.maxEntries.lt (.ofInt (s.guard.seen.entries.length + 1)) = false)
    (hclock : s.clock ≤ now) :
    Knows decode timeOf R
      (tr ++ [TlsnEvent.ended call v.presentation
        (finishValidateTlsn R s.guard (.ofInt now) v.presentation v.requirement crypto).2 now])
      { s with
        guard := s.guard.add (presentationHash R v.presentation) (.ofInt now)
        calls := s.calls.delete call
        clock := now } := by
  have hkeep : ∀ evs, Quiet evs → Knows decode timeOf R (tr ++ evs)
      { s with
        guard := s.guard.add (presentationHash R v.presentation) (.ofInt now)
        calls := s.calls.delete call
        clock := now } := fun evs hevs =>
    h.quiet rfl (.add hroom) hclock (fun _ _ hget => JsMap.get?_of_delete hget)
      (fun p time hle hheld => held_add h.retention hroom hclock (hle.trans hclock) hheld _ rfl rfl)
      hevs
  cases haccepted : (finishValidateTlsn R s.guard (.ofInt now) v.presentation v.requirement
    crypto).2.accepted with
  | false => exact hkeep _ (quiet_ended haccepted)
  | true =>
    obtain ⟨made, hmade, hpast, hfresh⟩ := fresh_of_accepted hrun htime haccepted
    have hkept := hkeep [] quiet_nil
    rw [List.append_nil] at hkept
    refine ⟨hkept.retention, hkept.room, hkept.spelled, hkept.within, hkept.alone, ?_, ?_, ?_⟩
    · intro e he presentation time haccepts
      rcases List.mem_append.mp he with he | he
      · exact hkept.accepted e he presentation time haccepts
      · rw [List.mem_singleton.mp he] at haccepts
        obtain ⟨-, rfl, rfl⟩ := haccepts
        refine ⟨h.spelled call v hcall, ⟨made, hmade, hpast⟩, le_rfl, .inl ⟨now, le_rfl, ?_⟩⟩
        refine ReplayGuard.get?_add hroom (JsMap.get?_set_self _ _ _)
          (live_of_not_aged h.retention le_rfl ?_)
        unfold Aged sevenDaysMs
        omega
    · intro call' v' hcall' e he time haccepts
      rcases List.mem_append.mp he with he | he
      · exact hkept.pending call' v' hcall' e he time haccepts
      · -- no other call is under way for this presentation
        rw [List.mem_singleton.mp he] at haccepts
        obtain ⟨-, hsame, -⟩ := haccepts
        obtain rfl := h.alone call call' v v' hcall (JsMap.get?_of_delete hcall') hsame
        simp at hcall'
    · intro bytes
      rw [List.filter_append]
      by_cases hbytes : decode v.presentation = bytes
      · subst hbytes
        rw [h.not_accepted_before hcall hclock hmade hfresh, List.nil_append]
        exact (List.length_filter_le _ _).trans le_rfl
      · have hother : List.filter (·.acceptsBytes decode bytes)
            [TlsnEvent.ended call v.presentation (finishValidateTlsn R s.guard (.ofInt now)
              v.presentation v.requirement crypto).2 now] = [] := by
          simp [TlsnEvent.acceptsBytes, hbytes]
        rw [hother, List.append_nil]
        exact h.once bytes

/-! ## Every run -/

theorem knows_step {a : TlsnAction} (h : Knows decode timeOf R tr s)
    (hcareful : Careful decode timeOf s a) (hstep : (tlsnProcess R).step s a = some (s', evs)) :
    Knows decode timeOf R (tr ++ evs) s' := by
  cases processStep_of_step hstep with
  | refused hresult =>
    obtain ⟨-, -, -, hclock⟩ := hcareful
    exact h.quiet rfl (h.room.evict _) hclock (fun _ _ hcall => hcall)
      (fun p time _ hheld => held_evict h.retention h.room hclock hheld _ rfl rfl)
      (quiet_ended hresult)
  | began hnew =>
    obtain ⟨hspelled, hother, hwithin, hclock⟩ := hcareful
    rw [List.append_nil]
    exact h.begin hspelled hother hwithin hclock hnew
  | failed hcall hevs =>
    obtain ⟨-, -, hclock⟩ := hcareful
    refine h.quiet rfl h.room hclock (fun _ _ hget => JsMap.get?_of_delete hget) ?_ hevs
    rintro p time - (hheld | haged)
    · exact .inl hheld
    · exact .inr (haged.mono hclock)
  | marked hcall hrun hvalid =>
    obtain ⟨htime, hroom, hclock⟩ := hcareful
    exact h.mark hcall hrun (fun out hout => htime _ out hcall hout) hroom hclock

theorem knows_start (start : Int) : Knows decode timeOf R [] { clock := start } where
  retention := rfl
  room := by
    show JsNumber.lt (.ofInt 100000) (.ofInt 0) = false
    decide
  spelled := by
    intro call v hcall
    simp at hcall
  within := by
    intro call v hcall
    simp at hcall
  alone := by
    intro call call' v v' hcall
    simp at hcall
  accepted := by
    intro e he
    cases he
  pending := by
    intro call v hcall
    simp at hcall
  once := fun _ => Nat.zero_le _

/--
Over every interleaving of calls in one process, from an empty guard, with all requirements and all
runs of the sidecar that meet `Careful`: of the calls for the same bytes, at most one ends with a
valid signature, a valid server, a fresh attestation and no failures.
-/
theorem presentation_accepted_once {start : Int} {tr : List TlsnEvent} {s : TlsnProcess}
    (hrun : Run (tlsnProcess R) (Careful decode timeOf) { clock := start } tr s) :
    AtMostOnce decode tr :=
  (Run.invariant (I := Knows decode timeOf R) (knows_start start)
    (fun h hcareful hstep => knows_step h hcareful hstep) hrun).once

/-! ## Fixed inputs -/

def SidecarRun.output? : SidecarRun → Option VerifierOutput
  | .printed stdout => stdout
  | _ => none

theorem SidecarRun.output?_eq_some {out : VerifierOutput} :
    run.output? = some out ↔ run = .printed (some out) := by
  cases run <;> simp [output?]

instance (decode : String → List UInt8) (timeOf : List UInt8 → Option JsNumber) (s : TlsnProcess)
    (a : TlsnAction) : Decidable (Careful decode timeOf s a) :=
  match a with
  | .validate presentation requirement _ now =>
    decidable_of_iff
      (base64Encode (decode presentation) = presentation ∧
        (∀ v ∈ s.calls.values, v.presentation ≠ presentation) ∧
        ((maxAgeSeconds requirement).scale 1000).le (.ofInt sevenDaysMs) = true ∧ s.clock ≤ now)
      (by simp only [Careful, JsMap.mem_values, forall_exists_index]; rw [forall_comm])
  | .sidecar call run now =>
    decidable_of_iff
      ((∀ v ∈ s.calls.get? call, ∀ out ∈ run.output?,
          out.time = timeOf (decode v.presentation)) ∧
        s.guard.maxEntries.lt (.ofInt (s.guard.seen.entries.length + 1)) = false ∧ s.clock ≤ now)
      (by
        simp only [Careful, Option.mem_def, SidecarRun.output?_eq_some]
        refine and_congr_left fun _ => forall_congr' fun v => ?_
        rw [forall_comm])

/-- A validation begins. -/
def validateAt (seconds : Int) (presentation : String) (maxAge : Option JsNumber := none) :
    TlsnAction :=
  .validate presentation { targetUrl := "https://api.test/", maxAttestationAgeSeconds := maxAge }
    (some "tlsn-verifier") (seconds * 1000)

/-- Its sidecar answers. -/
def verifiedAt (seconds : Int) (call : Nat) : TlsnAction :=
  .sidecar call
    (.printed (some
      { valid := some true, serverName := some "api.test", revealedBody := some ""
        time := some (.ofInt 1000) })) (seconds * 1000)

/-- How often the bytes are accepted. -/
def acceptances (tr : List TlsnEvent) : Nat :=
  (tr.filter (·.acceptsBytes base64Decode [112])).length

def oneAfterTheOther : List TlsnAction :=
  [validateAt 1001 "cA==", verifiedAt 1002 0, validateAt 1003 "cA=="]

/-- It is accepted once. -/
theorem presentation_accepted_once_plain :
    ∃ tr s, Run (tlsnProcess plainTlsnTools) (Careful base64Decode fun _ => some (.ofInt 1000))
      { clock := 0 } tr s ∧ AtMostOnce base64Decode tr ∧ acceptances tr = 1 := by
  have hcareful : (tlsnProcess plainTlsnTools).Admits
      (Careful base64Decode fun _ => some (.ofInt 1000)) { clock := 0 } oneAfterTheOther := by
    decide +kernel
  have hexec : ((tlsnProcess plainTlsnTools).exec { clock := 0 } oneAfterTheOther).map
      (fun r => acceptances r.2) = some 1 := by decide +kernel
  obtain ⟨tr, s, hrun, hcount⟩ := Run.exists_of_exec (f := acceptances) hcareful hexec
  exact ⟨tr, s, hrun, presentation_accepted_once hrun, hcount⟩

/-- A run accepts it twice. -/
def AcceptedTwice (actions : List TlsnAction) : Prop :=
  ∃ tr s, (tlsnProcess plainTlsnTools).exec { clock := 0 } actions = some (s, tr) ∧
    Run (tlsnProcess plainTlsnTools) AnyStep { clock := 0 } tr s ∧ ¬AtMostOnce base64Decode tr

theorem acceptedTwice_of_count {actions : List TlsnAction}
    (h : ((tlsnProcess plainTlsnTools).exec { clock := 0 } actions).map
      (fun r => acceptances r.2) = some 2) : AcceptedTwice actions := by
  obtain ⟨⟨s, tr⟩, hexec, hcount⟩ := Option.map_eq_some_iff.mp h
  have hrun := Run.of_exec actions .start (Machine.admits_anyStep _ actions _) hexec
  rw [List.nil_append] at hrun
  refine ⟨tr, s, hexec, hrun, fun honce => ?_⟩
  have hle := honce [112]
  simp only [acceptances] at hcount
  omega

/-- Two calls at the same time; two texts of the same bytes; a call after eight days, under a
requirement that allows ten. -/
theorem presentation_accepted_twice :
    AcceptedTwice
      [validateAt 1001 "cA==", validateAt 1001 "cA==", verifiedAt 1002 0, verifiedAt 1003 1] ∧
    AcceptedTwice
      [validateAt 1001 "cA==", verifiedAt 1002 0, validateAt 1003 "cA", verifiedAt 1004 1] ∧
    AcceptedTwice
      [validateAt 1001 "cA==" (some (.ofInt 864000)), verifiedAt 1002 0,
        validateAt 692203 "cA==" (some (.ofInt 864000)), verifiedAt 692204 1] := by
  refine ⟨acceptedTwice_of_count ?_, acceptedTwice_of_count ?_, acceptedTwice_of_count ?_⟩ <;>
    decide +kernel

end Anchr.Proofs
