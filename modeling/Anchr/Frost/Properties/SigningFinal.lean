import Anchr.Frost.Coordinator
import Anchr.Infra.JsonRoundtrip

/-!
# A signing session is finalized once

`finalized` is tested before the aggregator is awaited and set after it, so two calls that wait at
the same time both finalize the session. Only the shares are counted. The signers with a commitment
may be others.
-/

namespace Anchr.Frost

open Infra

/-- The same signers have sent a commitment and a share. An object built by assignment has no member
`__proto__`. -/
def FrostSigningSession.Balanced (session : FrostSigningSession) : Prop :=
  (∀ signer, session.nonceCommitments.has signer = true ↔
    session.signatureShares.has signer = true) ∧
  session.signatureShares.has "__proto__" = false

instance (session : FrostSigningSession) : Decidable session.Balanced :=
  decidable_of_iff ((∀ e ∈ session.nonceCommitments.entries,
      session.signatureShares.has e.1 = true) ∧
    (∀ e ∈ session.signatureShares.entries, session.nonceCommitments.has e.1 = true) ∧
    session.signatureShares.has "__proto__" = false) <| by
  simp only [FrostSigningSession.Balanced, JsMap.has_iff_mem, List.mem_map]
  constructor
  · rintro ⟨hleft, hright, hproto⟩
    refine ⟨fun signer => ⟨?_, ?_⟩, hproto⟩
    · rintro ⟨e, he, rfl⟩
      exact hleft e he
    · rintro ⟨e, he, rfl⟩
      exact hright e he
  · rintro ⟨hsame, hproto⟩
    exact ⟨fun e he => (hsame e.1).mp ⟨e, he, rfl⟩, fun e he => (hsame e.1).mpr ⟨e, he, rfl⟩, hproto⟩

/-- Where `tryAggregate` would reach the aggregator, no other call is there, and the signers agree. -/
def Alone (T : NumberText) (s : CallState FrostSigningSession Unit) :
    CallAction SigningRequest (Option FrostCliResult) → Prop
  | .begin (.aggregate pubkeyPackage) => (s.shared.aggregateArgs T pubkeyPackage).isSome →
    s.calls.entries = [] ∧ s.shared.Balanced
  | _ => True

instance (T : NumberText) (s : CallState FrostSigningSession Unit)
    (a : CallAction SigningRequest (Option FrostCliResult)) : Decidable (Alone T s a) :=
  match a with
  | .begin (.aggregate pubkeyPackage) =>
    inferInstanceAs (Decidable ((s.shared.aggregateArgs T pubkeyPackage).isSome →
      s.calls.entries = [] ∧ s.shared.Balanced))
  | .begin (.commitment _ _) | .begin (.share _ _) | .resume _ _ => .isTrue trivial

/-- The aggregator is given a commitment and a share of the same signers, at least `threshold`. -/
def AggregateArgs.Backed (T : NumberText) (threshold : Nat) (args : AggregateArgs) : Prop :=
  ∃ commitments shares, Json.parse T args.commitments = some (.obj commitments) ∧
    Json.parse T args.signatureShares = some (.obj shares) ∧
    (∀ signer, signer ∈ commitments.map Prod.fst ↔ signer ∈ shares.map Prod.fst) ∧
    (shares.map Prod.fst).Nodup ∧ threshold ≤ shares.length

/-- The signatures that `tryAggregate` returns. -/
def returnedSignatures (tr : List SigningEvent) : List Json :=
  tr.filterMap fun
    | .returned _ signature => signature
    | _ => none

variable {T : NumberText} {session : FrostSigningSession}

/-! ## What the aggregator is given -/

theorem parse_assignedObject (m : JsMap String String) :
    Json.parse T ((assignedObject m).stringify T) = some (assignedObject m) := by
  refine Json.parse_stringify ?_
  unfold assignedObject
  show Json.DoublesMembers T _
  induction m.entries.filter fun e => e.1 ≠ "__proto__" with
  | nil => trivial
  | cons e l ih => exact ⟨trivial, ih⟩

variable {m : JsMap String String} {pubkeyPackage : Option String} {args : AggregateArgs}
  {call : Nat}

theorem mem_filter_names {signer : String} :
    signer ∈ ((m.entries.filter fun e => e.1 ≠ "__proto__").map fun e => (e.1, Json.str e.2)).map
      Prod.fst ↔ m.has signer = true ∧ signer ≠ "__proto__" := by
  rw [JsMap.has_iff_mem]
  simp only [List.map_map, List.mem_map, List.mem_filter, Function.comp_apply]
  constructor
  · rintro ⟨e, ⟨he, hne⟩, rfl⟩
    exact ⟨⟨e, he, rfl⟩, by simpa using hne⟩
  · rintro ⟨⟨e, he, rfl⟩, hne⟩
    exact ⟨e, ⟨he, by simpa using hne⟩, rfl⟩

theorem filter_no_proto (h : m.has "__proto__" = false) :
    m.entries.filter (fun e => e.1 ≠ "__proto__") = m.entries := by
  refine List.filter_eq_self.mpr fun e he => ?_
  refine decide_eq_true fun heq => ?_
  have hmem : m.has "__proto__" = true := by
    rw [JsMap.has_iff_mem, ← heq]
    exact List.mem_map_of_mem he
  rw [h] at hmem
  exact absurd hmem (by decide)

theorem backed_of_balanced (hbalanced : session.Balanced)
    (hargs : session.aggregateArgs T pubkeyPackage = some args) :
    args.Backed T session.config.threshold := by
  unfold FrostSigningSession.aggregateArgs at hargs
  split at hargs
  next => simp at hargs
  split at hargs
  next => simp at hargs
  next hcount =>
    cases hargs
    refine ⟨_, _, parse_assignedObject _, parse_assignedObject _, ?_, ?_, ?_⟩
    · intro signer
      rw [mem_filter_names, mem_filter_names, hbalanced.1]
    · rw [filter_no_proto hbalanced.2, List.map_map]
      exact session.signatureShares.nodup
    · rw [filter_no_proto hbalanced.2, List.length_map]
      omega

/-! ## Interleavings -/

/-- What holds while `tryAggregate` calls keep out of each other's way. -/
structure FinalOnce (T : NumberText) (config : ThresholdOracleConfig) (tr : List SigningEvent)
    (s : CallState FrostSigningSession Unit) : Prop where
  unchanged : s.shared.config = config
  backed : ∀ call args, .invoked call args ∈ tr → args.Backed T config.threshold
  /-- One call waits for the aggregator at most, and none once the session is finalized. -/
  alone : ∀ call call', (s.calls.get? call).isSome → (s.calls.get? call').isSome → call = call'
  idle : s.shared.finalized = true → ∀ call, s.calls.get? call = none
  returned : returnedSignatures tr =
    if s.shared.finalized then s.shared.groupSignature.toList else []
  signature : s.shared.finalized = true → s.shared.groupSignature.isSome

variable {config : ThresholdOracleConfig} {tr evs : List SigningEvent}
  {s s' : CallState FrostSigningSession Unit}

theorem returnedSignatures_append (tr evs : List SigningEvent) :
    returnedSignatures (tr ++ evs) = returnedSignatures tr ++ returnedSignatures evs :=
  List.filterMap_append

theorem FinalOnce.quiet (h : FinalOnce T config tr s)
    (hshared : s'.shared.config = s.shared.config ∧ s'.shared.finalized = s.shared.finalized ∧
      s'.shared.groupSignature = s.shared.groupSignature)
    (hcalls : ∀ call, (s'.calls.get? call).isSome → (s.calls.get? call).isSome)
    (hreturned : returnedSignatures evs = []) (hinvoked : ∀ call args, .invoked call args ∉ evs) :
    FinalOnce T config (tr ++ evs) s' := by
  obtain ⟨hconfig, hfinalized, hsignature⟩ := hshared
  refine ⟨by rw [hconfig, h.unchanged], ?_, ?_, ?_, ?_, ?_⟩
  · intro call args hmem
    rcases List.mem_append.mp hmem with hmem | hmem
    · exact h.backed call args hmem
    · exact absurd hmem (hinvoked call args)
  · exact fun call call' hcall hcall' => h.alone call call' (hcalls call hcall) (hcalls call' hcall')
  · intro hfinal call
    rw [hfinalized] at hfinal
    refine Option.not_isSome_iff_eq_none.mp fun hsome => ?_
    have hbefore := hcalls call hsome
    rw [h.idle hfinal call] at hbefore
    exact absurd hbefore (by simp)
  · rw [returnedSignatures_append, hreturned, List.append_nil, h.returned, hfinalized, hsignature]
  · rw [hfinalized, hsignature]
    exact h.signature

theorem isSome_place_none {calls : JsMap Nat Unit} {c : Nat}
    (h : ((calls.place call none).get? c).isSome) : c ≠ call ∧ (calls.get? c).isSome := by
  rw [JsMap.get?_place] at h
  split at h
  next => simp at h
  next hne => exact ⟨hne, h⟩

theorem FinalOnce.begin_aggregate (h : FinalOnce T config tr s)
    (hargs : s.shared.aggregateArgs T pubkeyPackage = some args) (hempty : s.calls.entries = [])
    (hbalanced : s.shared.Balanced) :
    FinalOnce T config (tr ++ [.invoked s.nextCall args])
      { shared := s.shared, calls := s.calls.place s.nextCall (some ())
        nextCall := s.nextCall + 1 } := by
  have hopen : s.shared.finalized = false := by
    unfold FrostSigningSession.aggregateArgs at hargs
    split at hargs
    next => simp at hargs
    next hfinal => simpa using hfinal
  have hnone : ∀ c, s.calls.get? c = none := by
    intro c
    rw [JsMap.get?_eq_none, hempty]
    simp
  have honly : ∀ c, ((s.calls.place s.nextCall (some ())).get? c).isSome → c = s.nextCall := by
    intro c hc
    rw [JsMap.get?_place, hnone c] at hc
    by_contra hne
    rw [if_neg hne] at hc
    simp at hc
  refine ⟨h.unchanged, ?_, ?_, ?_, ?_, h.signature⟩
  · intro call args' hmem
    rcases List.mem_append.mp hmem with hmem | hmem
    · exact h.backed call args' hmem
    · obtain ⟨-, rfl⟩ : call = s.nextCall ∧ args' = args := by simpa using hmem
      have hbacked := backed_of_balanced hbalanced hargs
      rw [h.unchanged] at hbacked
      exact hbacked
  · intro call call' hcall hcall'
    rw [honly call hcall, honly call' hcall']
  · intro hfinal
    rw [hopen] at hfinal
    exact absurd hfinal (by decide)
  · rw [returnedSignatures_append, h.returned]
    simp [returnedSignatures]

theorem FinalOnce.finalize (h : FinalOnce T config tr s) (hcall : s.calls.get? call = some ())
    {result : FrostCliResult} {signature : Json} (hsignature : result.signature = some signature) :
    FinalOnce T config (tr ++ [.returned call (some signature)])
      { s with shared := s.shared.aggregated result, calls := s.calls.place call none } := by
  have hopen : s.shared.finalized = false := by
    by_contra hfinal
    have hidle := h.idle (by simpa using hfinal) call
    rw [hcall] at hidle
    exact absurd hidle (by simp)
  have hshared : s.shared.aggregated result
      = { s.shared with groupSignature := some signature, finalized := true } := by
    unfold FrostSigningSession.aggregated
    rw [hsignature]
  rw [hshared]
  refine ⟨h.unchanged, ?_, ?_, ?_, ?_, fun _ => rfl⟩
  · intro call' args hmem
    rcases List.mem_append.mp hmem with hmem | hmem
    · exact h.backed call' args hmem
    · simp at hmem
  · intro c c' hc hc'
    exact h.alone c c' (isSome_place_none hc).2 (isSome_place_none hc').2
  · -- the call that returns was the only one
    intro _ c
    refine Option.not_isSome_iff_eq_none.mp fun hc => ?_
    obtain ⟨hne, hsome⟩ := isSome_place_none hc
    exact hne (h.alone c call hsome (by rw [hcall]; rfl))
  · rw [returnedSignatures_append, h.returned, hopen]
    rfl

theorem submit_keeps (session : FrostSigningSession) (signerPubkey text : String) :
    ((session.submitNonceCommitment signerPubkey text).config = session.config ∧
      (session.submitNonceCommitment signerPubkey text).finalized = session.finalized ∧
      (session.submitNonceCommitment signerPubkey text).groupSignature = session.groupSignature) ∧
    ((session.submitSignatureShare signerPubkey text).config = session.config ∧
      (session.submitSignatureShare signerPubkey text).finalized = session.finalized ∧
      (session.submitSignatureShare signerPubkey text).groupSignature = session.groupSignature) := by
  unfold FrostSigningSession.submitNonceCommitment FrostSigningSession.submitSignatureShare
  split <;> simp

theorem FinalOnce.step (h : FinalOnce T config tr s)
    {a : CallAction SigningRequest (Option FrostCliResult)} (hguard : Alone T s a)
    (hstep : (FrostSigningSession.service T).machine.step s a = some (s', evs)) :
    FinalOnce T config (tr ++ evs) s' := by
  cases a with
  | begin request =>
    cases hstep
    cases request with
    | commitment signerPubkey commitment =>
      exact h.quiet (submit_keeps _ _ _).1 (fun _ hc => (isSome_place_none hc).2) rfl (by
        intro call args hmem
        simp [FrostSigningSession.service, FrostSigningSession.begin] at hmem)
    | share signerPubkey share =>
      exact h.quiet (submit_keeps _ _ _).2 (fun _ hc => (isSome_place_none hc).2) rfl (by
        intro call args hmem
        simp [FrostSigningSession.service, FrostSigningSession.begin] at hmem)
    | aggregate pubkeyPackage =>
      simp only [FrostSigningSession.service, FrostSigningSession.begin]
      cases hargs : s.shared.aggregateArgs T pubkeyPackage with
      | none => exact h.quiet ⟨rfl, rfl, rfl⟩ (fun _ hc => (isSome_place_none hc).2) rfl (by simp)
      | some args =>
        obtain ⟨hempty, hbalanced⟩ := hguard (by rw [hargs]; rfl)
        exact h.begin_aggregate hargs hempty hbalanced
  | resume call answer =>
    simp only [CallService.machine, CallService.step, FrostSigningSession.service,
      Option.map_some] at hstep
    split at hstep
    next => simp at hstep
    next hcall =>
      cases hstep
      cases answer with
      | none =>
        exact h.quiet ⟨rfl, rfl, rfl⟩ (fun _ hc => (isSome_place_none hc).2) rfl
          (by simp [FrostSigningSession.resume])
      | some result =>
        simp only [FrostSigningSession.resume]
        cases hsignature : result.signature with
        | none =>
          have hshared : s.shared.aggregated result = s.shared := by
            unfold FrostSigningSession.aggregated
            rw [hsignature]
          rw [hshared]
          exact h.quiet ⟨rfl, rfl, rfl⟩ (fun _ hc => (isSome_place_none hc).2) rfl (by simp)
        | some signature => exact h.finalize hcall hsignature

theorem finalOnce_started (sessionId queryId message : String) (config : ThresholdOracleConfig)
    (now : Int) : FinalOnce T config []
      { shared := .started sessionId queryId message config now } where
  unchanged := rfl
  backed := by simp
  alone := by simp
  idle := by simp
  returned := rfl
  signature := by simp [FrostSigningSession.started]

/-- In every further run the one signature that was returned stays that of the session. -/
theorem FinalOnce.groupSignature_eq {tr' : List SigningEvent} (h : FinalOnce T config tr s)
    (hfinal : s.shared.finalized = true) (h' : FinalOnce T config (tr ++ tr') s') :
    s'.shared.finalized = true ∧ s'.shared.groupSignature = s.shared.groupSignature := by
  obtain ⟨signature, hsignature⟩ := Option.isSome_iff_exists.mp (h.signature hfinal)
  have hreturned := h'.returned
  rw [returnedSignatures_append, h.returned, hfinal, hsignature] at hreturned
  by_cases hfinal' : s'.shared.finalized = true
  · refine ⟨hfinal', ?_⟩
    rw [hfinal'] at hreturned
    cases hsig : s'.shared.groupSignature with
    | none => simp [hsig] at hreturned
    | some signature' =>
      have hsame : signature = signature' := by
        simp only [hsig, if_true, Option.toList_some, List.singleton_append, List.cons.injEq]
          at hreturned
        exact hreturned.1
      rw [hsignature, hsame]
  · rw [if_neg hfinal'] at hreturned
    simp at hreturned

/-- Every interleaving in which the calls that reach the aggregator keep to the guard. -/
theorem signing_session_final {sessionId queryId message : String} {now : Int}
    (hrun : Run (FrostSigningSession.service T).machine (Alone T)
      { shared := .started sessionId queryId message config now } tr s) :
    (∀ call args, .invoked call args ∈ tr → args.Backed T config.threshold) ∧
    (returnedSignatures tr).length ≤ 1 ∧
    (s.shared.finalized = true → ∀ tr' s',
      Run (FrostSigningSession.service T).machine (Alone T) s tr' s' →
        s'.shared.finalized = true ∧ s'.shared.groupSignature = s.shared.groupSignature) := by
  have honce : FinalOnce T config tr s := by
    refine hrun.invariant (I := fun tr s => FinalOnce T config tr s) (finalOnce_started ..) ?_
    intro tr s a s' evs hs hguard hstep
    exact hs.step hguard hstep
  refine ⟨honce.backed, ?_, ?_⟩
  · rw [honce.returned]
    split
    · exact Option.length_toList_le
    · exact Nat.zero_le _
  · intro hfinal tr' s' hrun'
    have honce' : FinalOnce T config (tr ++ tr') s' := by
      refine hrun'.invariant (I := fun tr' s' => FinalOnce T config (tr ++ tr') s') (by simpa) ?_
      intro tr' s a s' evs hs hguard hstep
      rw [← List.append_assoc]
      exact hs.step hguard hstep
    exact honce.groupSignature_eq hfinal honce'

/-! ## Two signers -/

def pairConfig : ThresholdOracleConfig :=
  { threshold := 2, totalSigners := 3, signerPubkeys := ["p1", "p2", "p3"], groupPubkey := "g" }

/-- A session for them. -/
def pairSession : CallState FrostSigningSession Unit :=
  { shared := .started "frost_0" "q" "00" pairConfig 0 }

/-- The aggregator answers with this signature. -/
def signedBy (signature : String) : Option FrostCliResult :=
  some { ok := true, data := some (.obj [("signature", .str signature)]) }

/-- What the aggregator is given. -/
def invokedTexts (tr : List SigningEvent) : List (String × String) :=
  tr.filterMap fun
    | .invoked _ args => some (args.commitments, args.signatureShares)
    | _ => none

/-- Both signers send a commitment and a share, one call aggregates them and a second one comes too
late. -/
def pairActions : List (CallAction SigningRequest (Option FrostCliResult)) :=
  [.begin (.commitment "p1" "c"), .begin (.commitment "p2" "c"), .begin (.share "p1" "s"),
    .begin (.share "p2" "s"), .begin (.aggregate none), .resume 4 (signedBy "s1"),
    .begin (.aggregate none)]

/-- Two signers, and one aggregation. -/
theorem signing_session_final_pair : ∃ tr s,
    Run (FrostSigningSession.service .safeIntegers).machine (Alone .safeIntegers) pairSession tr s ∧
    (returnedSignatures tr).map Json.asString? = [some "s1"] ∧
    (returnedSignatures tr).length ≤ 1 ∧
    ∀ call args, .invoked call args ∈ tr → args.Backed .safeIntegers 2 := by
  have hadmits : (FrostSigningSession.service .safeIntegers).machine.Admits (Alone .safeIntegers)
      pairSession pairActions := by decide
  obtain ⟨tr, s, hrun, hreturned⟩ := Run.exists_of_exec
    (f := fun tr => (returnedSignatures tr).map Json.asString?) (b := [some "s1"]) hadmits
    (by decide)
  obtain ⟨hbacked, honce, -⟩ := signing_session_final hrun
  exact ⟨tr, s, hrun, hreturned, honce, hbacked⟩

/-- Without any commitment the aggregator is called all the same, and of two calls that wait for it
both return a signature, the second of which replaces the first. -/
theorem signing_session_not_final :
    (((FrostSigningSession.service .safeIntegers).machine.exec pairSession
      [.begin (.share "p1" "s"), .begin (.share "p2" "s"), .begin (.aggregate none),
        .begin (.aggregate none), .resume 2 (signedBy "s1"), .resume 3 (signedBy "s2")]).map fun r =>
      ((returnedSignatures r.2).map Json.asString?, r.1.shared.groupSignature.map Json.asString?,
        (invokedTexts r.2).map Prod.fst))
      = some ([some "s1", some "s2"], some (some "s2"), ["\x7b\x7d", "\x7b\x7d"]) := by
  decide

end Anchr.Frost
