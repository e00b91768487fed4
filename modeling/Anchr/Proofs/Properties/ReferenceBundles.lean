import Anchr.Proofs.SchemaRegistry

/-!
# Registering the reference bundles

The first verification registers three bundles one after the other and only then sets its flag. If
the host has taken one of their URLs, the registration throws half way, and from then on the first
of its own bundles is in its way.
-/

namespace Anchr.Proofs

open Infra

/-! ## What is expected -/

def place (uri : String) (placed : Option SchemaBundle) : RegistryEvent → Option SchemaBundle
  | .registered bundle => if bundle.uri = uri then some bundle else placed
  | .disposed bundle => if placed = some bundle then none else placed
  | .unregistered uri' _ => if uri' = uri then none else placed
  | _ => placed

/-- The bundle that the host has registered under the URL and not removed. -/
def hostBundle (uri : String) (tr : List RegistryEvent) : Option SchemaBundle :=
  tr.foldl (place uri) none

def RegistryEvent.isVerification : RegistryEvent → Bool
  | .verified .. | .rejected _ => true
  | _ => false

/-- The history from the first `verifyProof` on. -/
def sinceVerified (tr : List RegistryEvent) : List RegistryEvent :=
  tr.dropWhile fun e => !e.isVerification

/-- The bundle of the host is the one that is used. -/
def UsesHostBundle (tr : List RegistryEvent) (e : RegistryEvent) : Prop :=
  ∀ schema used, e = .verified schema used → ∀ bundle,
    hostBundle (schema.getD genericMediaSchemaUri) tr = some bundle → used = some bundle

/-- Every verification goes through, with the bundle of the host where there is one. -/
structure NeverWedged (tr : List RegistryEvent) (s : SchemaRegistry) : Prop where
  accepted : ∀ message, .rejected message ∉ tr
  used : Justified UsesHostBundle tr
  resolves : ∀ uri ∈ referenceUris, sinceVerified tr ≠ [] →
    (∀ found, .unregistered uri found ∉ sinceVerified tr) → s.schemaBundles.has uri = true

/-- The reference bundles are registered, or none of their URLs is taken. -/
def Unclaimed (s : SchemaRegistry) : Prop :=
  s.registered = true ∨ ∀ uri ∈ referenceUris, s.schemaBundles.has uri = false

instance (s : SchemaRegistry) : Decidable (Unclaimed s) :=
  inferInstanceAs (Decidable (_ ∨ ∀ uri ∈ referenceUris, _))

/-- The guard: a verification meets an unclaimed registry. -/
def VerifiesUnclaimed (s : SchemaRegistry) : RegistryCall → Prop
  | .verify _ => Unclaimed s
  | _ => True

instance (s : SchemaRegistry) (call : RegistryCall) : Decidable (VerifiesUnclaimed s call) := by
  cases call <;> unfold VerifiesUnclaimed <;> infer_instance

/-! ## Three registrations -/

theorem registerReferences_free {uri : String} {s : SchemaRegistry} (rest : List String)
    (hfree : s.schemaBundles.has uri = false) :
    SchemaRegistry.registerReferences (uri :: rest) s = SchemaRegistry.registerReferences rest
      { s with schemaBundles := s.schemaBundles.set uri (referenceBundle uri) } := by
  rw [SchemaRegistry.registerReferences, SchemaRegistry.registerSchemaBundle,
    if_neg (by rw [referenceBundle, hfree]; exact Bool.false_ne_true)]
  rfl

theorem registerReferences_absent : ∀ (uris : List String) (s : SchemaRegistry), uris.Nodup →
    (∀ uri ∈ uris, s.schemaBundles.has uri = false) →
    ∃ s', SchemaRegistry.registerReferences uris s = (s', none) ∧ s'.registered = true ∧
      s'.callbacks = s.callbacks ∧ ∀ uri, s'.schemaBundles.get? uri =
        if uri ∈ uris then some (referenceBundle uri) else s.schemaBundles.get? uri
  | [], s, _, _ => ⟨_, rfl, rfl, rfl, fun uri => (if_neg List.not_mem_nil).symm⟩
  | uri :: rest, s, hnodup, habsent => by
    obtain ⟨hnot, hnodup⟩ := List.nodup_cons.mp hnodup
    rw [registerReferences_free rest (habsent uri List.mem_cons_self)]
    obtain ⟨s', heq, hflag, hcallbacks, hget⟩ := registerReferences_absent rest
      { s with schemaBundles := s.schemaBundles.set uri (referenceBundle uri) } hnodup
      fun uri' hmem => by
        have hne : uri' ≠ uri := fun h => hnot (h ▸ hmem)
        rw [← Bool.not_eq_true, JsMap.has_set, habsent uri' (List.mem_cons_of_mem _ hmem)]
        simpa using hne
    refine ⟨s', heq, hflag, hcallbacks, fun uri' => ?_⟩
    rw [hget, JsMap.get?_set]
    by_cases hrest : uri' ∈ rest
    · rw [if_pos hrest, if_pos (List.mem_cons_of_mem _ hrest)]
    · by_cases heq : uri' = uri
      · rw [if_neg hrest, if_pos heq, if_pos (heq ▸ List.mem_cons_self), heq]
      · rw [if_neg hrest, if_neg heq, if_neg (by simp [hrest, heq])]

theorem registerReferences_taken : ∀ (uris : List String) (s : SchemaRegistry),
    (∃ uri ∈ uris, s.schemaBundles.has uri = true) →
    ∃ s' message, SchemaRegistry.registerReferences uris s = (s', some message)
  | [], s, h => by simp at h
  | uri :: rest, s, h => by
    by_cases htaken : s.schemaBundles.has uri = true
    · rw [SchemaRegistry.registerReferences, SchemaRegistry.registerSchemaBundle,
        if_pos (by rw [referenceBundle, htaken])]
      exact ⟨_, _, rfl⟩
    · obtain ⟨uri', hmem, hhas⟩ := h
      have hrest : uri' ∈ rest := (List.mem_cons.mp hmem).resolve_left fun heq =>
        htaken (heq ▸ hhas)
      rw [registerReferences_free rest (by simpa using htaken)]
      exact registerReferences_taken rest _ ⟨uri', hrest, (JsMap.has_set ..).mpr (.inr hhas)⟩

theorem nodup_referenceUris : referenceUris.Nodup := by decide

/-- In an unclaimed registry, a verification finds the reference bundles, and every other bundle in
its place. -/
theorem resolveBundle_unclaimed {s : SchemaRegistry} (h : Unclaimed s) (schema : Option String) :
    ∃ s', s.resolveBundle schema =
        (s', .ok (s'.schemaBundles.get? (schema.getD genericMediaSchemaUri))) ∧
      s'.registered = true ∧ s'.callbacks = s.callbacks ∧
      ∀ uri, s'.schemaBundles.get? uri =
        if s.registered = false ∧ uri ∈ referenceUris then some (referenceBundle uri)
        else s.schemaBundles.get? uri := by
  unfold SchemaRegistry.resolveBundle SchemaRegistry.ensureReferenceSchemaBundlesRegistered
  by_cases hflag : s.registered = true
  · exact ⟨s, by simp [hflag], hflag, rfl, fun uri => by simp [hflag]⟩
  · obtain ⟨s', heq, hflag', hcallbacks, hget⟩ :=
      registerReferences_absent referenceUris s nodup_referenceUris (h.resolve_left hflag)
    refine ⟨s', by simp [hflag, heq], hflag', hcallbacks, fun uri => ?_⟩
    simpa [hflag] using hget uri

/-- `verifyProof` rejects exactly in a claimed registry. -/
theorem rejects_iff (s : SchemaRegistry) (schema : Option String) :
    (∃ s' message, s.resolveBundle schema = (s', .error message)) ↔ ¬ Unclaimed s := by
  constructor
  · rintro ⟨s', message, heq⟩ hunclaimed
    obtain ⟨s'', heq', -⟩ := resolveBundle_unclaimed hunclaimed schema
    cases heq.symm.trans heq'
  · intro hclaimed
    have hflag : s.registered ≠ true := fun h => hclaimed (.inl h)
    have htaken : ∃ uri ∈ referenceUris, s.schemaBundles.has uri = true := by
      by_contra hnone
      push Not at hnone
      exact hclaimed (.inr fun uri hmem => by simpa using hnone uri hmem)
    obtain ⟨s', message, heq⟩ := registerReferences_taken referenceUris s htaken
    refine ⟨s', message, ?_⟩
    simp [SchemaRegistry.resolveBundle, SchemaRegistry.ensureReferenceSchemaBundlesRegistered,
      hflag, heq]

/-! ## Runs -/

variable {tr : List RegistryEvent} {e : RegistryEvent} {s s' : SchemaRegistry}

theorem hostBundle_snoc (uri : String) (tr : List RegistryEvent) (e : RegistryEvent) :
    hostBundle uri (tr ++ [e]) = place uri (hostBundle uri tr) e := by
  rw [hostBundle, List.foldl_append]
  rfl

theorem sinceVerified_snoc (tr : List RegistryEvent) (e : RegistryEvent) :
    sinceVerified (tr ++ [e]) =
      if sinceVerified tr = [] then (if e.isVerification then [e] else [])
      else sinceVerified tr ++ [e] := by
  unfold sinceVerified
  simp only [List.dropWhile_append, List.isEmpty_iff]
  split
  next => cases he : e.isVerification <;> simp [he]
  next => rfl

/-- What runs keep whose verifications meet an unclaimed registry. -/
structure Wired (tr : List RegistryEvent) (s : SchemaRegistry) : Prop where
  accepted : ∀ message, .rejected message ∉ tr
  used : Justified UsesHostBundle tr
  placed : ∀ uri bundle, hostBundle uri tr = some bundle → s.schemaBundles.get? uri = some bundle
  owned : ∀ bundle ∈ s.callbacks, bundle.host ≠ none
  begun : s.registered = true ↔ sinceVerified tr ≠ []
  /-- The reference bundles stay until the host removes them by their URL. -/
  references : s.registered = true → ∀ uri ∈ referenceUris,
    (∀ found, .unregistered uri found ∉ sinceVerified tr) →
      s.schemaBundles.get? uri = some (referenceBundle uri)

/-- A call that is no verification. -/
theorem Wired.other (h : Wired tr s) (he : e.isVerification = false)
    (hflag : s'.registered = s.registered) (howned : ∀ bundle ∈ s'.callbacks, bundle.host ≠ none)
    (hplaced : ∀ uri bundle, place uri (hostBundle uri tr) e = some bundle →
      s'.schemaBundles.get? uri = some bundle)
    (hkept : ∀ uri, (∀ found, e ≠ .unregistered uri found) →
      s.schemaBundles.get? uri = some (referenceBundle uri) →
        s'.schemaBundles.get? uri = some (referenceBundle uri)) : Wired (tr ++ [e]) s' := by
  have hsince : sinceVerified (tr ++ [e]) =
      if sinceVerified tr = [] then [] else sinceVerified tr ++ [e] := by
    rw [sinceVerified_snoc, he, if_neg Bool.false_ne_true]
  constructor
  case accepted =>
    intro message hmem
    rcases List.mem_append.mp hmem with hmem | hmem
    · exact h.accepted message hmem
    · rw [← List.mem_singleton.mp hmem] at he
      cases he
  case used =>
    refine h.used.snoc fun schema used heq => ?_
    rw [heq] at he
    cases he
  case placed =>
    intro uri bundle hbundle
    rw [hostBundle_snoc] at hbundle
    exact hplaced uri bundle hbundle
  case owned => exact howned
  case begun =>
    rw [hflag, h.begun, hsince]
    split
    next hnil => simp [hnil]
    next hne => simp [hne]
  case references =>
    intro hreg uri huri hnot
    rw [hflag] at hreg
    rw [hsince, if_neg (h.begun.mp hreg)] at hnot
    refine hkept uri (fun found heq => hnot found ?_) (h.references hreg uri huri fun found hmem =>
      hnot found (List.mem_append_left _ hmem))
    rw [heq]
    exact List.mem_concat_self

theorem Wired.register (h : Wired tr s) {bundle : SchemaBundle} (hhost : bundle.host ≠ none)
    (hfree : s.schemaBundles.has bundle.uri = false) :
    Wired (tr ++ [.registered bundle])
      { s with
        schemaBundles := s.schemaBundles.set bundle.uri bundle
        callbacks := bundle :: s.callbacks } := by
  have hother : ∀ {uri found}, s.schemaBundles.get? uri = some found → uri ≠ bundle.uri := by
    intro uri found hget heq
    rw [← heq, JsMap.has, hget] at hfree
    cases hfree
  refine h.other rfl rfl ?_ (fun uri b hb => ?_) fun uri _ hget => ?_
  · exact List.forall_mem_cons.mpr ⟨hhost, h.owned⟩
  · rw [place] at hb
    split at hb
    next heq => rw [← heq, JsMap.get?_set_self, hb]
    have hget := h.placed uri b hb
    rw [JsMap.get?_set_ne _ _ (hother hget), hget]
  · rw [JsMap.get?_set_ne _ _ (hother hget), hget]

theorem Wired.dispose (h : Wired tr s) {bundle : SchemaBundle} (hmem : bundle ∈ s.callbacks) :
    Wired (tr ++ [.disposed bundle]) (s.dispose bundle) := by
  unfold SchemaRegistry.dispose
  split
  next hcurrent =>
    -- what is found under another URL, or is another bundle, stays
    have hkept : ∀ {uri found}, s.schemaBundles.get? uri = some found → found ≠ bundle →
        (s.schemaBundles.delete bundle.uri).get? uri = some found := by
      intro uri found hget hne
      rw [JsMap.get?_delete_ne _ fun heq => hne ?_, hget]
      exact Option.some.inj (hget.symm.trans (heq ▸ hcurrent))
    refine h.other rfl rfl h.owned (fun uri b hb => ?_) fun uri _ hget => hkept hget fun heq => ?_
    · rw [place] at hb
      split at hb
      next => cases hb
      next hne => exact hkept (h.placed uri b hb) fun heq => hne (hb.trans (congrArg some heq))
    · exact h.owned bundle hmem (heq ▸ rfl)
  next hcurrent =>
    refine h.other rfl rfl h.owned (fun uri b hb => ?_) fun _ _ hget => hget
    rw [place] at hb
    split at hb
    next => cases hb
    next => exact h.placed uri b hb

theorem Wired.unregister (h : Wired tr s) (uri : String) (found : Bool) :
    Wired (tr ++ [.unregistered uri found])
      { s with schemaBundles := s.schemaBundles.delete uri } := by
  refine h.other rfl rfl h.owned (fun uri' b hb => ?_) fun uri' hne hget => ?_
  · rw [place] at hb
    split at hb
    next => cases hb
    next hne => rw [JsMap.get?_delete_ne _ (Ne.symm hne), h.placed uri' b hb]
  · rw [JsMap.get?_delete_ne _ fun heq => hne found (by rw [heq]), hget]

theorem Wired.verify (h : Wired tr s) (hunclaimed : Unclaimed s) (schema : Option String) :
    ∃ s' used, s.resolveBundle schema = (s', .ok used) ∧
      Wired (tr ++ [.verified schema used]) s' := by
  obtain ⟨s', heq, hflag, hcallbacks, hget⟩ := resolveBundle_unclaimed hunclaimed schema
  have hplaced : ∀ uri bundle, hostBundle uri tr = some bundle →
      s'.schemaBundles.get? uri = some bundle := by
    intro uri bundle hbundle
    have hfound := h.placed uri bundle hbundle
    rw [hget, if_neg, hfound]
    rintro ⟨hfalse, huri⟩
    have hfree := hunclaimed.resolve_left (by simp [hfalse]) uri huri
    rw [JsMap.has, hfound] at hfree
    cases hfree
  have hsince : ∀ used, sinceVerified (tr ++ [.verified schema used]) =
      sinceVerified tr ++ [.verified schema used] := by
    intro used
    rw [sinceVerified_snoc]
    split
    next hnil =>
      rw [hnil, RegistryEvent.isVerification, if_pos rfl]
      rfl
    next => rfl
  refine ⟨s', _, heq, ?_⟩
  constructor
  case accepted =>
    intro message hmem
    rcases List.mem_append.mp hmem with hmem | hmem
    · exact h.accepted message hmem
    · cases List.mem_singleton.mp hmem
  case used =>
    refine h.used.snoc fun schema' used heq bundle hbundle => ?_
    cases heq
    exact hplaced _ bundle hbundle
  case placed =>
    intro uri bundle hbundle
    rw [hostBundle_snoc] at hbundle
    exact hplaced uri bundle hbundle
  case owned =>
    rw [hcallbacks]
    exact h.owned
  case begun => simp [hflag, hsince]
  case references =>
    intro _ uri huri hnot
    rw [hsince] at hnot
    rw [hget]
    split
    next => rfl
    next hold =>
      exact h.references (by simpa [huri] using hold) uri huri fun found hmem =>
        hnot found (List.mem_append_left _ hmem)

theorem Wired.step (h : Wired tr s) {call : RegistryCall} (hguard : VerifiesUnclaimed s call)
    {evs : List RegistryEvent} (hstep : registryMachine.step s call = some (s', evs)) :
    Wired (tr ++ evs) s' := by
  cases call with
  | register uri host =>
    unfold registryMachine SchemaRegistry.registerSchemaBundle at hstep
    dsimp only at hstep
    by_cases htaken : s.schemaBundles.has uri = true
    · rw [if_pos htaken] at hstep
      cases hstep
      exact h.other rfl rfl h.owned (fun uri b hb => h.placed uri b hb) fun _ _ hget => hget
    · rw [if_neg htaken] at hstep
      cases hstep
      exact h.register (by simp) (by simpa using htaken)
  | dispose bundle =>
    unfold registryMachine at hstep
    dsimp only at hstep
    split at hstep
    next hmem =>
      cases hstep
      exact h.dispose hmem
    next => cases hstep
  | unregister uri =>
    cases hstep
    exact h.unregister uri _
  | verify schema =>
    obtain ⟨s'', used, heq, hwired⟩ := h.verify hguard schema
    unfold registryMachine at hstep
    dsimp only at hstep
    rw [heq] at hstep
    cases hstep
    exact hwired

/-- `verifyProof` rejects exactly when it has not registered the reference bundles yet and one of
their URLs is taken. In every run in which it is not called then, it never rejects, uses the bundle
of the host where there is one, and leaves every reference URL with a bundle until the host
unregisters it. -/
theorem registration_never_wedges (s : SchemaRegistry) (schema : Option String) :
    ((∃ s' message, SchemaRegistry.resolveBundle s schema = (s', .error message)) ↔
      ¬ Unclaimed s) ∧
    ∀ tr s, Run registryMachine VerifiesUnclaimed {} tr s → NeverWedged tr s := by
  refine ⟨rejects_iff s schema, fun tr s hrun => ?_⟩
  have hwired : Wired tr s := by
    refine Run.invariant (I := Wired) ?_ (fun h hguard hstep => h.step hguard hstep) hrun
    exact {
      accepted := by simp
      used := .nil _
      placed := fun _ _ h => by cases h
      owned := by simp
      begun := by simp [sinceVerified]
      references := fun h => by cases h }
  refine ⟨hwired.accepted, hwired.used, fun uri huri hsince hnot => ?_⟩
  rw [JsMap.has, hwired.references (hwired.begun.mpr hsince) uri huri hnot]
  rfl

/-- The host verifies first, then replaces the TLSNotary bundle by its own. -/
theorem registration_never_wedges_replaced :
    ∃ tr s, Run registryMachine VerifiesUnclaimed {} tr s ∧ NeverWedged tr s ∧
      tr.getLast? = some (.verified (some tlsnV1) (some ⟨tlsnV1, some 0⟩)) := by
  have hadmits : registryMachine.Admits VerifiesUnclaimed {} [.verify none, .unregister tlsnV1,
      .register tlsnV1 0, .verify (some tlsnV1)] := by decide
  obtain ⟨tr, s, hrun, hlast⟩ := Run.exists_of_exec (f := List.getLast?)
    (b := some (.verified (some tlsnV1) (some ⟨tlsnV1, some 0⟩))) hadmits (by decide)
  exact ⟨tr, s, hrun, (registration_never_wedges s none).2 tr s hrun, hlast⟩

/-- The host registers a bundle under the TLSNotary URL, and two verifications follow. The first
comes as far as the generic bundle; the second is stopped by it. -/
theorem registration_wedged :
    (registryMachine.exec {} [.register tlsnV1 0, .verify (some tlsnV1), .verify none]).map
        (fun r => (r.2, r.1.schemaBundles.get? c2paImageV1)) =
      some ([.registered ⟨tlsnV1, some 0⟩,
        .rejected ("Proof Schema bundle already registered: " ++ tlsnV1),
        .rejected ("Proof Schema bundle already registered: " ++ genericMediaSchemaUri)], none) := by
  decide

end Anchr.Proofs
