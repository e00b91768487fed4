import Anchr.Proofs.VerifierBinary

/-!
# What a passed TLSNotary verification says

A verification passes when no failure has been recorded. `checkServer` records none when it does
not know which server to expect, so a pass does not always say whose data was revealed.
-/

namespace Anchr.Proofs

open Infra

section

variable (R : TlsnTools)

/-- The host that the server has to have: the hint if it is given and not empty, else the host of
the target. -/
def requiredHost (tlsn : TlsnRequirement) : Option String :=
  (tlsn.domainHint.filter (· ≠ "") <|> R.hostname tlsn.targetUrl).filter (· ≠ "")

/-- What the output of the sidecar is to say, when it arrives at `now`. -/
structure Assured (tlsn : TlsnRequirement) (now : JsNumber) (out : VerifierOutput) : Prop where
  valid : out.valid = some true
  server : ∃ host, requiredHost R tlsn = some host ∧ out.serverName = some host
  fresh : ∃ time at' : ℚ, out.time = some (.fin time) ∧ now = .fin at' ∧ time * 1000 ≤ at' ∧
    (JsNumber.fin (at' - time * 1000)).lt ((maxAgeSeconds tlsn).scale 1000) = true
  conditions : ∀ condition ∈ tlsn.conditions.getD [],
    condition.HoldsOf R (out.revealedBody.getD "")

/-- The hint is given and not empty, or it is not given and the target has a host. -/
def NamesHost (tlsn : TlsnRequirement) : Prop :=
  (∃ hint, tlsn.domainHint = some hint ∧ hint ≠ "") ∨
    (tlsn.domainHint = none ∧ ∃ host, R.hostname tlsn.targetUrl = some host ∧ host ≠ "")

end

variable {R : TlsnTools}

/-! ## The host -/

variable {tlsn : TlsnRequirement} {requirement : VerificationRequirement}
  {input : VerificationInput} {g : ReplayGuard} {v : Inspection}

theorem expectedHostname_of_namesHost (h : NamesHost R tlsn) :
    ∃ host, requiredHost R tlsn = some host ∧ expectedHostname R tlsn = some host := by
  rcases h with ⟨hint, hhint, hne⟩ | ⟨hnone, host, hhost, hne⟩
  · exact ⟨hint, by simp [requiredHost, hhint, hne], by simp [expectedHostname, hhint, hne]⟩
  · exact ⟨host, by simp [requiredHost, hnone, hhost, hne],
      by simp [expectedHostname, hnone, hhost, hne]⟩

theorem expectedHostname_of_not_namesHost (h : ¬NamesHost R tlsn) :
    expectedHostname R tlsn = none := by
  cases hexpected : expectedHostname R tlsn with
  | none => rfl
  | some host =>
    refine absurd ?_ h
    obtain ⟨hsome, hne⟩ := Option.filter_eq_some_iff.mp hexpected
    have hne : host ≠ "" := by simpa using hne
    cases hhint : tlsn.domainHint with
    | some hint =>
      rw [hhint] at hsome
      obtain rfl : hint = host := Option.some.inj hsome
      exact .inl ⟨hint, hhint, hne⟩
    | none =>
      rw [hhint] at hsome
      exact .inr ⟨hhint, host, hsome, hne⟩

/-! ## The verdict -/

theorem tlsnTask_ok {presentation : String}
    (h : tlsnTask requirement input = .ok (tlsn, presentation)) :
    requirement.schemaRequirement.bind readTlsnRequirement = some tlsn := by
  unfold tlsnTask at h
  split at h
  · cases h
  · next read hread =>
    cases hevidence : evidencePresentation input.schemaEvidence with
    | error failure =>
      rw [hevidence] at h
      cases h
    | ok found =>
      rw [hevidence] at h
      obtain ⟨rfl, rfl⟩ := Prod.mk.inj (Except.ok.inj h)
      exact hread

variable {run : SidecarRun}

theorem passesAfter_output
    (htlsn : requirement.schemaRequirement.bind readTlsnRequirement = some tlsn)
    (h : PassesAfter R g v requirement input run) :
    ∃ out, run = .printed (some out) ∧ out.valid = some true ∧
      (∀ expected, expectedHostname R tlsn = some expected → out.serverName = some expected) ∧
      (∃ time, out.time = some time ∧ isFresh tlsn v.answeredAt time = true) ∧
      ∀ condition ∈ tlsn.conditions.getD [],
        (evaluateCondition R condition (out.revealedBody.getD "")).passed = true := by
  obtain ⟨crypto, hrun, hpasses⟩ := h
  obtain ⟨-, tlsn', presentation, htask, -, hestablishes, time, htime, hfresh⟩ :=
    passes_iff.mp hpasses
  obtain rfl : tlsn' = tlsn := Option.some.inj ((tlsnTask_ok htask).symm.trans htlsn)
  obtain ⟨out, rfl, hvalid, hname, hbody, hclock⟩ :=
    runVerifierBinary_valid hrun hestablishes.signature
  refine ⟨out, rfl, hvalid, ?_, ⟨time, hclock ▸ htime, hfresh⟩, ?_⟩
  · intro expected hexpected
    rw [← hname]
    exact hestablishes.server expected hexpected
  · intro condition hmem
    rw [← hbody]
    exact hestablishes.conditions condition hmem

theorem assured_of_passesAfter
    (htlsn : requirement.schemaRequirement.bind readTlsnRequirement = some tlsn)
    (hhost : NamesHost R tlsn) (h : PassesAfter R g v requirement input run) :
    ∃ out, run = .printed (some out) ∧ Assured R tlsn v.answeredAt out := by
  obtain ⟨out, rfl, hvalid, hserver, ⟨time, htime, hfresh⟩, hconditions⟩ :=
    passesAfter_output htlsn h
  obtain ⟨host, hrequired, hexpected⟩ := expectedHostname_of_namesHost hhost
  obtain ⟨t, n, rfl, hnow, hpast, hyoung⟩ := fresh_finite hfresh
  refine ⟨out, rfl, hvalid, ⟨host, hrequired, hserver host hexpected⟩,
    ⟨t, n, htime, hnow, hpast, hyoung⟩, fun condition hmem => ?_⟩
  exact holdsOf_of_passed (hconditions condition hmem)

/-- Without a host to compare with, an output that names no server passes as well. -/
theorem passesAfter_nameless {out : VerifierOutput}
    (htlsn : requirement.schemaRequirement.bind readTlsnRequirement = some tlsn)
    (hhost : ¬NamesHost R tlsn) (h : PassesAfter R g v requirement input (.printed (some out))) :
    PassesAfter R g v requirement input (.printed (some { out with serverName := none })) := by
  obtain ⟨crypto, hrun, hpasses⟩ := h
  cases hrun
  obtain ⟨hschema, tlsn', presentation, htask, hfree, hestablishes, hfresh⟩ :=
    passes_iff.mp hpasses
  obtain rfl : tlsn' = tlsn := Option.some.inj ((tlsnTask_ok htask).symm.trans htlsn)
  refine ⟨_, rfl, passes_iff.mpr ⟨hschema, tlsn', presentation, htask, hfree, ?_, hfresh⟩⟩
  refine ⟨hestablishes.signature, fun expected hexpected => ?_, hestablishes.conditions⟩
  rw [expectedHostname_of_not_namesHost hhost] at hexpected
  cases hexpected

/--
For every requirement, every evidence and every state of the replay guard with which a verification
can pass at all: that the signature, the server, the age and the conditions are assured in every
run of the sidecar that passes is the same as that the requirement names a host.
-/
theorem tlsn_pass_assured_iff {g : ReplayGuard} {v : Inspection}
    {requirement : VerificationRequirement} {input : VerificationInput} {run : SidecarRun}
    {tlsn : TlsnRequirement}
    (htlsn : requirement.schemaRequirement.bind readTlsnRequirement = some tlsn)
    (hpasses : PassesAfter R g v requirement input run) :
    (∀ run', PassesAfter R g v requirement input run' →
      ∃ out, run' = .printed (some out) ∧ Assured R tlsn v.answeredAt out) ↔
    NamesHost R tlsn := by
  constructor
  · intro hall
    by_contra hhost
    obtain ⟨out, rfl, -⟩ := passesAfter_output htlsn hpasses
    obtain ⟨out', heq, hassured⟩ := hall _ (passesAfter_nameless htlsn hhost hpasses)
    obtain rfl := Option.some.inj (SidecarRun.printed.inj heq)
    obtain ⟨host, -, hserver⟩ := hassured.server
    cases hserver
  · intro hhost run' hrun'
    exact assured_of_passesAfter htlsn hhost hrun'

/-! ## Fixed inputs -/

/-- A requirement for this URL. -/
def targetRequirement (target : String) : VerificationRequirement where
  id := "q"
  schema := some tlsnV1
  schemaRequirement := some (.obj [("target_url", .str target)])

/-- A presentation. -/
def attestationEvidence : VerificationInput where
  schemaEvidence := some (.obj [("presentation", .str "cA==")])

/-- The sidecar names this server. -/
def presentedBy (server : String) : VerifierOutput where
  valid := some true
  serverName := some server
  revealedBody := some ""
  time := some (.ofInt 1000)

/-- The target has a host, and whoever passes is that host. -/
theorem tlsn_pass_assured_plain :
    PassesAfter plainTlsnTools {} (inspectionAt 1001) (targetRequirement "https://api.test/")
        attestationEvidence (.printed (some (presentedBy "api.test"))) ∧
      ¬PassesAfter plainTlsnTools {} (inspectionAt 1001) (targetRequirement "https://api.test/")
        attestationEvidence (.printed (some (presentedBy "evil.test"))) := by
  have hpasses : PassesAfter plainTlsnTools {} (inspectionAt 1001)
      (targetRequirement "https://api.test/") attestationEvidence
      (.printed (some (presentedBy "api.test"))) := ⟨_, rfl, by decide +kernel⟩
  have hhost : NamesHost plainTlsnTools { targetUrl := "https://api.test/" } :=
    .inr ⟨rfl, "api.test", rfl, by decide⟩
  refine ⟨hpasses, fun hother => ?_⟩
  obtain ⟨out, heq, hassured⟩ := (tlsn_pass_assured_iff rfl hpasses).mpr hhost _ hother
  obtain rfl := Option.some.inj (SidecarRun.printed.inj heq)
  obtain ⟨host, hrequired, hserver⟩ := hassured.server
  obtain rfl : "evil.test" = host := Option.some.inj hserver
  exact absurd hrequired (by decide)

/-- The scheme of the target is missing, no hint is given, and any server passes. -/
theorem tlsn_pass_unassured :
    PassesAfter plainTlsnTools {} (inspectionAt 1001) (targetRequirement "api.test/")
        attestationEvidence (.printed (some (presentedBy "evil.test"))) ∧
      ¬∃ out, SidecarRun.printed (some (presentedBy "evil.test")) = .printed (some out) ∧
        Assured plainTlsnTools { targetUrl := "api.test/" } (inspectionAt 1001).answeredAt out := by
  refine ⟨⟨_, rfl, by decide +kernel⟩, ?_⟩
  rintro ⟨out, -, hassured⟩
  obtain ⟨host, hrequired, -⟩ := hassured.server
  exact absurd hrequired (by simp [requiredHost, plainTlsnTools])

end Anchr.Proofs
