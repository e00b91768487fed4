import Anchr.Requests.History

/-!
# Release after verification

Other calls may do anything to the store while `submitEscrowResult` is suspended; what it hands over
is decided by its own history.
-/

namespace Anchr.Requests

open Infra

/-! ## What precedes a release -/

/-- The call began on a record in `processing`, for its Provider, and its verification passed. -/
def VerifiedFor (deps : ServiceDeps) (tr : List Event) (call : Nat) (type : EscrowType) : Prop :=
  ∃ query result pk escrow, .escrowBegan call query result pk ∈ tr ∧
    .verified call (deps.normalizeResult result) true ∈ tr ∧
    query.status = .processing ∧ query.escrow = some escrow ∧ escrow.type = type ∧
    (truthyString escrow.providerPubkey = true → escrow.providerPubkey = some pk)

/-- What has to precede each event of a release. -/
def ReleaseJustified (deps : ServiceDeps) (pre : List Event) : Event → Prop
  | .preimageRead call hash _ => VerifiedFor deps pre call (.htlc hash)
  | .preimageDeleted call hash => VerifiedFor deps pre call (.htlc hash)
  | .frostRequested call _ _ => ∃ groupPubkey, VerifiedFor deps pre call (.p2pkFrost groupPubkey)
  | .frostAnswered call _ => ∃ query result, .frostRequested call query result ∈ pre
  | .escrowReturned call outcome =>
    (∀ preimage, outcome.preimage = some preimage →
      ∃ hash, .preimageRead call hash (some preimage) ∈ pre) ∧
    ∀ signature, outcome.frostSignature = some signature → .frostAnswered call signature ∈ pre
  | _ => True

def EscrowSubmission.Began (deps : ServiceDeps) (tr : List Event) (call : Nat)
    (p : EscrowSubmission) : Prop :=
  ∃ result pk escrow, .escrowBegan call p.query result pk ∈ tr ∧
    p.normalizedResult = deps.normalizeResult result ∧
    p.query.status = .processing ∧ p.query.escrow = some escrow ∧
    (truthyString escrow.providerPubkey = true → escrow.providerPubkey = some pk)

def ReleaseExplained (deps : ServiceDeps) (tr : List Event) (call : Nat) : Pending → Prop
  | .escrowVerify p => p.Began deps tr call
  | .escrowGet hash _ => VerifiedFor deps tr call (.htlc hash)
  | .escrowGot hash preimage _ =>
    VerifiedFor deps tr call (.htlc hash) ∧ .preimageRead call hash preimage ∈ tr
  | .escrowDelete hash preimage _ =>
    VerifiedFor deps tr call (.htlc hash) ∧ .preimageRead call hash (some preimage) ∈ tr
  | .escrowDeleted hash preimage _ => .preimageRead call hash (some preimage) ∈ tr
  | .escrowFrost _ => ∃ query result, .frostRequested call query result ∈ tr
  | _ => True

section

variable {deps : ServiceDeps} {tr evs : List Event} {call : Nat}

theorem VerifiedFor.mono {type : EscrowType} (h : VerifiedFor deps tr call type) :
    VerifiedFor deps (tr ++ evs) call type := by
  obtain ⟨query, result, pk, escrow, hbegan, hverified, hrest⟩ := h
  exact ⟨query, result, pk, escrow, List.mem_append_left _ hbegan, List.mem_append_left _ hverified,
    hrest⟩

theorem ReleaseExplained.mono {p : Pending} (h : ReleaseExplained deps tr call p) :
    ReleaseExplained deps (tr ++ evs) call p := by
  cases p with
  | escrowVerify p =>
    obtain ⟨result, pk, escrow, hbegan, hrest⟩ := h
    exact ⟨result, pk, escrow, List.mem_append_left _ hbegan, hrest⟩
  | escrowGet => exact VerifiedFor.mono h
  | escrowGot => exact ⟨h.1.mono, List.mem_append_left _ h.2⟩
  | escrowDelete => exact ⟨h.1.mono, List.mem_append_left _ h.2⟩
  | escrowDeleted => exact List.mem_append_left _ h
  | escrowFrost =>
    obtain ⟨query, result, hmem⟩ := h
    exact ⟨query, result, List.mem_append_left _ hmem⟩
  | _ => trivial

/-! ## The turns of `submitEscrowResult` -/

theorem released_nothing {outcome : EscrowSubmitOutcome} (hp : outcome.preimage = none)
    (hf : outcome.frostSignature = none) :
    Turn.Explained (ReleaseExplained deps) (ReleaseJustified deps) tr call
      { events := [.escrowReturned call outcome] } := by
  refine .returned ⟨⟨fun preimage h => ?_, fun signature h => ?_⟩, trivial⟩
  · rw [hp] at h
    cases h
  · rw [hf] at h
    cases h

variable {updated : Query}

variable {p : EscrowSubmission} {hash : String} {turn : Turn}

/-- Once verification has passed, the call settles by the type of the escrow it read. -/
theorem released_settle
    (hverified : ∀ escrow, p.query.escrow = some escrow → VerifiedFor deps tr call escrow.type) :
    (settle deps p call updated).Explained (ReleaseExplained deps) (ReleaseJustified deps) tr
      call := by
  unfold settle
  split
  · next hash htype =>
    obtain ⟨escrow, he, ht⟩ := Option.map_eq_some_iff.mp htype
    have hv := hverified escrow he
    rw [ht] at hv
    split
    · refine ⟨trivial, fun p' hp' => ?_⟩
      rw [← Option.some.inj hp', List.append_nil]
      exact hv
    · exact released_nothing rfl rfl
  · next groupPubkey htype =>
    obtain ⟨escrow, he, ht⟩ := Option.map_eq_some_iff.mp htype
    have hv := hverified escrow he
    rw [ht] at hv
    split
    · refine ⟨⟨⟨groupPubkey, hv⟩, trivial⟩, fun p' hp' => ?_⟩
      rw [← Option.some.inj hp']
      exact ⟨p.verifyingQuery, p.normalizedResult, by simp⟩
    · exact released_nothing rfl rfl
  · exact released_nothing rfl rfl

theorem released_finish {v : QuorumVerificationResult} (hbegan : p.Began deps tr call) :
    (p.finish deps call v).Explained (ReleaseExplained deps) (ReleaseJustified deps) tr call := by
  unfold EscrowSubmission.finish
  refine Turn.Explained.cons trivial ?_
  split
  · next hpass =>
    refine released_settle fun escrow he => ?_
    obtain ⟨result, pk, escrow', hmem, hres, hs, he', hpk⟩ := hbegan
    rw [he] at he'
    obtain rfl := Option.some.inj he'
    refine ⟨p.query, result, pk, escrow, List.mem_append_left _ hmem, ?_, hs, he, rfl, hpk⟩
    rw [← hres, hpass]
    simp
  · exact released_nothing rfl rfl

theorem released_gotPreimage {preimage : Option String}
    (hv : VerifiedFor deps tr call (.htlc hash)) (hread : .preimageRead call hash preimage ∈ tr) :
    (gotPreimage call hash preimage updated).Explained (ReleaseExplained deps)
      (ReleaseJustified deps) tr call := by
  unfold gotPreimage
  split
  · next value hvalue =>
    have hsome := (Option.filter_eq_some_iff.mp hvalue).1
    refine ⟨trivial, fun p hp => ?_⟩
    rw [← Option.some.inj hp, List.append_nil]
    exact ⟨hv, by rw [← hsome]; exact hread⟩
  · exact released_nothing rfl rfl

theorem released_returnPreimage {preimage : String}
    (hread : .preimageRead call hash (some preimage) ∈ tr) :
    (returnPreimage call preimage updated).Explained (ReleaseExplained deps)
      (ReleaseJustified deps) tr call := by
  refine .returned ⟨⟨fun v hv => ?_, fun _ h => (by cases h)⟩, trivial⟩
  rw [← Option.some.inj hv]
  exact ⟨hash, hread⟩

theorem released_gotSignature {signature : Option (List String)}
    (hreq : ∃ query result, .frostRequested call query result ∈ tr) :
    (gotSignature call signature updated).Explained (ReleaseExplained deps)
      (ReleaseJustified deps) tr call := by
  unfold gotSignature
  split
  · refine .returned ⟨hreq, ⟨fun _ h => (by cases h), fun sig hsig => ?_⟩, trivial⟩
    rw [← Option.some.inj hsig]
    simp
  · exact released_nothing rfl rfl

theorem released_of_ne_escrow {m : Method} (h : turn.Of call m) (hm : m = .submit ∨ m = .select) :
    turn.Explained (ReleaseExplained deps) (ReleaseJustified deps) tr call := by
  refine .of_forall (fun e he tr => ?_) (fun p hp tr => ?_)
  · have hof := h.1 e he
    rcases hm with rfl | rfl <;> cases e <;> first | trivial | cases hof.2
  · have hmethod := h.2 p hp
    rcases hm with rfl | rfl <;> cases p <;> trivial

theorem released_resume {p : Pending} {now : JsNumber} {answer : Answer}
    (hE : ReleaseExplained deps tr call p) (h : p.resume deps call now answer = some turn) :
    turn.Explained (ReleaseExplained deps) (ReleaseJustified deps) tr call := by
  cases hm : p.method with
  | submit => exact released_of_ne_escrow (of_resume h) (.inl hm)
  | select => exact released_of_ne_escrow (of_resume h) (.inr hm)
  | serve => cases p <;> cases hm
  | escrow =>
    cases resumes_of_resume h with
    | submitted => cases hm
    | amountChecked => cases hm
    | lockChecked => cases hm
    | verified => exact released_finish hE
    | gotPreimage => exact released_gotPreimage hE.1 hE.2
    | deletedPreimage => exact released_returnPreimage hE
    | gotSignature => exact released_gotSignature hE
    | threw => exact .returned ⟨trivial, trivial⟩

theorem explains_release (deps : ServiceDeps) :
    Explains deps (ReleaseExplained deps) (ReleaseJustified deps) where
  mono := ReleaseExplained.mono
  sync := by
    intro tr a e h
    cases e with
    | created => trivial
    | purged => trivial
    | offerRecorded => trivial
    | _ => cases a <;> exact h.elim
  begin := by
    intro tr s a m turn h
    cases m with
    | submit => exact released_of_ne_escrow h.of (.inl rfl)
    | select => exact released_of_ne_escrow h.of (.inr rfl)
    | serve =>
      cases h with
      | refuses he => exact he.elim
    | escrow =>
      cases h with
      | @refuses _ _ e he =>
        cases e <;> first | exact he.elim | skip
        obtain ⟨rfl, hpreimage, hsignature⟩ := he
        exact released_nothing hpreimage hsignature
      | records _ hnormal hok =>
        obtain ⟨escrow, he, hs, hpk, -⟩ := recordResult_ok hok
        refine ⟨⟨trivial, trivial⟩, fun p hp => ?_⟩
        cases hp
        exact ⟨_, _, escrow, by simp, hnormal, hs, he, hpk⟩
  resume := released_resume
  serve h hE := by
    cases h with
    | read => exact ⟨hE, hE.mono, by simp⟩
    | delete => exact ⟨hE.1, List.mem_append_left _ hE.2⟩

end

/-! ## What the events stand for -/

theorem escrowBegan_not_mem_settle (deps : ServiceDeps) (p : EscrowSubmission) (call c : Nat)
    (updated query : Query) (result : QueryResult) (pk : String) :
    .escrowBegan c query result pk ∉ (settle deps p call updated).events := by
  unfold settle returnVerdict
  split
  · split <;> simp
  · split <;> simp
  · simp

variable {deps : ServiceDeps} {call : Nat} {evs : List Event} {s' s : State} {a : Action}

variable {result : QueryResult} {query : Query} {pk : String}

theorem escrowBegan_not_mem_resume {c : Nat} {now : JsNumber} {p : Pending} {answer : Answer}
    {turn : Turn} (h : p.resume deps call now answer = some turn) :
    .escrowBegan c query result pk ∉ turn.events := by
  intro hmem
  have hm : Method.escrow = p.method := ((of_resume h).1 _ hmem).2.symm
  cases resumes_of_resume h with
  | submitted => cases hm
  | amountChecked => cases hm
  | lockChecked => cases hm
  | verified =>
    unfold EscrowSubmission.finish at hmem
    rcases List.mem_cons.mp hmem with he | hmem
    · cases he
    · split at hmem
      · exact escrowBegan_not_mem_settle _ _ _ _ _ _ _ _ hmem
      · simp [returnVerdict] at hmem
  | gotPreimage =>
    unfold gotPreimage returnVerdict at hmem
    split at hmem <;> simp at hmem
  | deletedPreimage => simp [returnPreimage] at hmem
  | gotSignature =>
    unfold gotSignature returnVerdict at hmem
    split at hmem <;> simp at hmem
  | threw => simp at hmem

/-- A submission begins on the stored record, under a number that no earlier event carries. -/
theorem escrowBegan_of_step {tr : List Event} (hn : Numbered tr s)
    (h : step deps s a = some (s', evs)) (hev : .escrowBegan call query result pk ∈ evs) :
    (∀ e ∈ tr, ∀ m, ¬ e.Of call m) ∧ ∃ queryId oracleId blossomKeys now,
      a = .submitEscrowResult queryId result pk oracleId blossomKeys now ∧
        s.store.get? queryId = some query := by
  cases stepShape_of_step h with
  | sync _ _ _ hevs => exact absurd (hevs _ hev) (by cases a <;> exact id)
  | begin hbegins =>
    have hescrow := (hbegins.of.1 _ hev).2
    subst hescrow
    cases hbegins with
    | refuses he =>
      rw [← List.mem_singleton.mp hev] at he
      exact he.elim
    | records hget =>
      cases List.mem_singleton.mp hev
      refine ⟨fun e he m hof => ?_, _, _, _, _, rfl, hget⟩
      exact absurd (hn.events e he _ m hof) (Nat.lt_irrefl _)
  | resume hcall hresume => exact absurd hev (escrowBegan_not_mem_resume hresume)
  | serve _ hserves => cases hserves <;> simp at hev

theorem preimageRead_of_step {hash : String} {preimage : Option String}
    (h : step deps s a = some (s', evs)) (hev : .preimageRead call hash preimage ∈ evs) :
    preimage = s.preimages.get? hash := by
  cases stepShape_of_step h with
  | sync _ _ _ hevs => exact absurd (hevs _ hev) (by cases a <;> exact id)
  | begin hbegins =>
    have hserve := (hbegins.of.1 _ hev).2
    subst hserve
    cases hbegins with
    | refuses he => exact he.elim
  | @resume _ _ _ p _ _ hresume =>
    have hm := ((of_resume hresume).1 _ hev).2
    cases p <;> cases hm
  | serve _ hserves =>
    cases hserves with
    | read =>
      cases List.mem_singleton.mp hev
      rfl
    | delete => simp at hev

theorem preimages_of_step (h : step deps s a = some (s', evs)) :
    s'.preimages = s.preimages ∨ (∃ preimages, a = .setPreimages preimages) ∨
      ∃ call hash, .preimageDeleted call hash ∈ evs ∧ s'.preimages = s.preimages.delete hash := by
  cases stepShape_of_step h with
  | sync _ _ hpre =>
    rcases hpre with hsame | hset
    · exact .inl hsame
    · exact .inr (.inl hset)
  | serve _ hserves =>
    cases hserves with
    | read => exact .inl rfl
    | delete => exact .inr (.inr ⟨_, _, List.mem_singleton_self _, rfl⟩)
  | _ => exact .inl rfl

/--
In every run, whatever the Oracles, the preimage store and the FROST port answer: the store is read
and the port is asked only after the same call's verification has passed, on a record that was in
`processing` when the call began and for its Provider. A returned preimage was read under the
hash of that record, a returned signature is the port's answer. Apart from the outside, only a
deletion by such a call changes the preimage store.
-/
theorem release_after_verification (deps : ServiceDeps) (G : State → Action → Prop) (s₀ s : State)
    (tr : List Event) (h₀ : s₀.calls = .empty) (h : Run (queryService deps) G s₀ tr s) :
    Justified (ReleaseJustified deps) tr ∧
    ∀ a s' evs, step deps s a = some (s', evs) →
      (∀ call query result pk, .escrowBegan call query result pk ∈ evs →
        (∀ e ∈ tr, ∀ m, ¬ e.Of call m) ∧ ∃ queryId oracleId blossomKeys now,
          a = .submitEscrowResult queryId result pk oracleId blossomKeys now ∧
            s.store.get? queryId = some query) ∧
      (∀ call hash preimage, .preimageRead call hash preimage ∈ evs →
        preimage = s.preimages.get? hash) ∧
      (s'.preimages = s.preimages ∨ (∃ preimages, a = .setPreimages preimages) ∨
        ∃ call hash, .preimageDeleted call hash ∈ evs ∧
          s'.preimages = s.preimages.delete hash) := by
  refine ⟨((explains_release deps).run h₀ h).1, fun a s' evs hstep => ⟨?_, ?_, ?_⟩⟩
  · intro call query result pk hev
    exact escrowBegan_of_step (numbered_of_run h₀ h) hstep hev
  · intro call hash preimage hev
    exact preimageRead_of_step hstep hev
  · exact preimages_of_step hstep

def returnedPreimages (evs : List Event) : List String :=
  evs.filterMap fun
    | .escrowReturned _ outcome => outcome.preimage
    | _ => none

/-- The Provider submits, the Oracle approves, the preimage is read, deleted and returned. -/
def releaseActions : List Action :=
  [.submitEscrowResult "q" { attachments := [] } "pk" (some "a") none (.ofInt 1),
    .resume 0 (.attestations [Oracle.verdict ⟨"a"⟩ "q" true]) (.ofInt 2),
    .serve 0, .resume 0 .stored (.ofInt 3), .serve 0, .resume 0 .stored (.ofInt 4)]

/-- A query in work, with its preimage in the store. -/
def processingHtlc : State :=
  .holding (escrowQuery .processing { openEscrow (.htlc "h") with providerPubkey := some "pk" })
    (some (OracleRegistry.empty.register ⟨"a"⟩)) (JsMap.empty.set "h" "p")

/-- A release of a preimage. -/
theorem release_after_verification_htlc :
    ∃ tr s pre post call outcome,
      Run (queryService (.wired false true false)) AnyStep processingHtlc tr s ∧
      tr = pre ++ .escrowReturned call outcome :: post ∧ outcome.preimage = some "p" ∧
      ∃ hash, .preimageRead call hash (some "p") ∈ pre := by
  have hp : ((queryService (.wired false true false)).exec processingHtlc releaseActions).map
      (fun r => returnedPreimages r.2) = some ["p"] := by decide
  obtain ⟨tr, s, hrun, hreturned⟩ := Run.exists_of_exec (Machine.admits_anyStep _ _ _) hp
  have hmem : "p" ∈ returnedPreimages tr := by rw [hreturned]; exact List.mem_singleton_self _
  obtain ⟨e, he, hpre⟩ := List.mem_filterMap.mp hmem
  split at hpre
  · next call outcome =>
    obtain ⟨pre, post, htr⟩ := List.append_of_mem he
    have hJ := (release_after_verification _ AnyStep _ s tr rfl hrun).1 pre _ post htr
    exact ⟨tr, s, pre, post, call, outcome, hrun, htr, hpre, hJ.1 "p" hpre⟩
  · cases hpre

end Anchr.Requests
