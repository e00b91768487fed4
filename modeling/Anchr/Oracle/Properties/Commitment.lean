import Anchr.Oracle.History

/-!
# One hash commitment for each query id

`issueQueryHash` looks for a hash, waits for the store to create one, and then stores it. Two
requests that both find no hash both create one; and after a release the hash is forgotten while the
answers that were given remain.
-/

namespace Anchr.Oracle

open Infra Protocol Requests

variable {N : NostrTools} (cfg : Config N)

/-! ## Condition -/

def Pending.creatingFor : Pending → Option String
  | .creating _ queryId _ => some queryId
  | _ => none

/-- When a request finds no hash for its query id, none has been issued for it before and no other
call is creating one. -/
def FreshIssue (s : CallState Tables Pending) : CallAction Request (Answer × Moment) → Prop
  | .begin r => ∀ q ∈ missOf cfg s.shared r,
      q ∉ s.shared.committed ∧ ∀ c ∈ s.calls.entries, c.2.creatingFor ≠ some q
  | .resume .. => True

/-! ## Invariant -/

/-- At most one hash has been issued for a query id, and an entry is being created by one call at
most, and only while there is none. -/
structure Committed (tr : List Event) (s : CallState Tables Pending) : Prop where
  recorded : ∀ q h, Issued tr q h → q ∈ s.shared.committed
  unique : ∀ q h h', Issued tr q h → Issued tr q h' → h = h'
  fresh : ∀ call p q, s.calls.get? call = some p → p.creatingFor = some q →
    q ∉ s.shared.committed
  alone : ∀ call call' p p' q, s.calls.get? call = some p → s.calls.get? call' = some p' →
    p.creatingFor = some q → p'.creatingFor = some q → call = call'

variable {cfg}

variable {q h : String} {tr : List Event} {P : String → String → Prop} {C : Caller → Prop}
  {e : Event}

theorem creatingFor_eq_some {p : Pending} :
    p.creatingFor = some q ↔ ∃ asker hash, p = .creating asker q hash := by
  cases p <;> simp [Pending.creatingFor]

theorem Issued.of_append {evs : List Event} (hi : Issued (tr ++ evs) q h) :
    Issued tr q h ∨ ∃ call, Event.hashIssued call q h ∈ evs := by
  obtain ⟨call, hmem⟩ := hi
  rcases List.mem_append.mp hmem with hmem | hmem
  · exact .inl ⟨call, hmem⟩
  · exact .inr ⟨call, hmem⟩

section

variable {tr : List Event} {s s' : CallState Tables Pending} {call : Nat} {turn : Turn}

theorem Committed.begin {r : Request} (h : Committed tr s) (hg : FreshIssue cfg s (.begin r))
    (hspec : TurnSpec cfg s.shared s.nextCall (.begin r) turn)
    (hshared : s'.shared = turn.shared)
    (hcalls : s'.calls = s.calls.place s.nextCall turn.pending) :
    Committed (tr ++ turn.events) s' := by
  have hsilent : ∀ c q hash, Event.hashIssued c q hash ∉ turn.events := by
    intro c q hash hmem
    obtain ⟨-, -, -, asker, heq⟩ := hspec.events _ hmem
    cases heq
  have hissued : ∀ q hash, Issued (tr ++ turn.events) q hash → Issued tr q hash := by
    intro q hash hi
    rcases hi.of_append with hi | ⟨c, hmem⟩
    · exact hi
    · exact absurd hmem (hsilent c q hash)
  have hcommitted : ∀ q, q ∈ s'.shared.committed → q ∈ s.shared.committed := by
    intro q hq
    rw [hshared] at hq
    rcases hspec.committed q hq with hq | ⟨hash, hmem⟩
    · exact hq
    · exact absurd hmem (hsilent _ q hash)
  -- the call just begun creates for a query id nobody else creates for
  have hnew : ∀ p q, turn.pending = some p → p.creatingFor = some q →
      q ∉ s.shared.committed ∧ ∀ c p', s.calls.get? c = some p' → p'.creatingFor ≠ some q := by
    intro p q hp hq
    obtain ⟨asker, hash, rfl⟩ := creatingFor_eq_some.mp hq
    obtain ⟨r', hr, hmiss⟩ := hspec.creating hp
    cases hr
    obtain ⟨hfresh, halone⟩ := hg q hmiss
    exact ⟨hfresh, fun c p' hc => halone (c, p') ((JsMap.get?_eq_some _ _ _).mp hc)⟩
  refine ⟨fun q hash hi => ?_, fun q hash hash' hi hi' => ?_, fun c p q hc hq => ?_,
    fun c c' p p' q hc hc' hq hq' => ?_⟩
  · rw [hshared]
    exact hspec.kept q (h.recorded q hash (hissued q hash hi))
  · exact h.unique q hash hash' (hissued q hash hi) (hissued q hash' hi')
  · rw [hcalls, JsMap.get?_place] at hc
    split at hc
    next => exact fun hmem => (hnew p q hc hq).1 (hcommitted q hmem)
    next => exact fun hmem => h.fresh c p q hc hq (hcommitted q hmem)
  · rw [hcalls, JsMap.get?_place] at hc hc'
    split at hc <;> split at hc'
    next heq heq' => rw [heq, heq']
    next => exact absurd hq' ((hnew p q hc hq).2 c' p' hc')
    next => exact absurd hq ((hnew p' q hc' hq').2 c p hc)
    next => exact h.alone c c' p p' q hc hc' hq hq'

theorem Committed.resume {p : Pending} {answer : Answer} (h : Committed tr s)
    (hp : s.calls.get? call = some p) (hspec : TurnSpec cfg s.shared call (.resume p answer) turn)
    (hshared : s'.shared = turn.shared) (hcalls : s'.calls = s.calls.place call turn.pending) :
    Committed (tr ++ turn.events) s' := by
  have hevent : ∀ c q hash, Event.hashIssued c q hash ∈ turn.events →
      ∃ asker, p = .creating asker q hash ∧ q ∈ s'.shared.committed := by
    intro c q hash hmem
    obtain ⟨-, -, hin, asker, heq⟩ := hspec.events _ hmem
    cases heq
    exact ⟨asker, rfl, hshared ▸ hin⟩
  -- what is issued now had not been issued
  have hnew : ∀ c q hash hash', Event.hashIssued c q hash ∈ turn.events → ¬Issued tr q hash' := by
    intro c q hash hash' hmem hi
    obtain ⟨asker, heq, -⟩ := hevent c q hash hmem
    exact h.fresh call p q hp (by rw [heq]; rfl) (h.recorded q hash' hi)
  have hpending : ∀ p' q, turn.pending = some p' → p'.creatingFor ≠ some q := by
    intro p' q hp' hq
    obtain ⟨asker, hash, rfl⟩ := creatingFor_eq_some.mp hq
    obtain ⟨r, hr, -⟩ := hspec.creating hp'
    cases hr
  refine ⟨fun q hash hi => ?_, fun q hash hash' hi hi' => ?_, fun c p' q hc hq hmem => ?_,
    fun c c' p₁ p₂ q hc hc' hq hq' => ?_⟩
  · rcases hi.of_append with hi | ⟨c, hmem⟩
    · rw [hshared]
      exact hspec.kept q (h.recorded q hash hi)
    · obtain ⟨-, -, hin⟩ := hevent c q hash hmem
      exact hin
  · rcases hi.of_append with hi | ⟨c, hmem⟩ <;> rcases hi'.of_append with hi' | ⟨c', hmem'⟩
    · exact h.unique q hash hash' hi hi'
    · exact absurd hi (hnew c' q hash' hash hmem')
    · exact absurd hi' (hnew c q hash hash' hmem)
    · obtain ⟨asker, heq, -⟩ := hevent c q hash hmem
      obtain ⟨asker', heq', -⟩ := hevent c' q hash' hmem'
      rw [heq] at heq'
      cases heq'
      rfl
  · rw [hcalls, JsMap.get?_place] at hc
    split at hc
    next => exact hpending p' q hc hq
    next hne =>
      rw [hshared] at hmem
      rcases hspec.committed q hmem with hmem | ⟨hash, hissued⟩
      · exact h.fresh c p' q hc hq hmem
      · obtain ⟨asker, heq, -⟩ := hevent call q hash hissued
        exact hne (h.alone c call p' p q hc hp hq (by rw [heq]; rfl))
  · rw [hcalls, JsMap.get?_place] at hc hc'
    split at hc
    next => exact absurd hq (hpending p₁ q hc)
    split at hc'
    next => exact absurd hq' (hpending p₂ q hc')
    next => exact h.alone c c' p₁ p₂ q hc hc' hq hq'

theorem Committed.step {a : CallAction Request (Answer × Moment)} {evs : List Event}
    (h : Committed tr s) (hg : FreshIssue cfg s a)
    (hstep : (oracleService cfg).machine.step s a = some (s', evs)) :
    Committed (tr ++ evs) s' := by
  obtain ⟨call, o, turn, hstarts, hspec, hshared, hcalls, rfl⟩ := spec_step hstep
  cases hstarts with
  | begin r => exact h.begin hg hspec hshared hcalls
  | resume hp => exact h.resume hp hspec hshared hcalls

theorem committed_of_run {preimages : JsMap String String}
    (hrun : Run (oracleService cfg).machine (FreshIssue cfg) (initialState preimages) tr s) :
    Committed tr s := by
  refine Run.invariant (I := Committed) ?_ (fun hI hg hstep => hI.step hg hstep) hrun
  constructor <;> simp [Issued, initialState]

end

/-! ## Commitments and releases -/

theorem issued_of_commitment (hJ : Justified (EventExplained cfg C P) tr) (he : e ∈ tr)
    (hc : e.commitment = some (q, h)) : Issued tr q h := by
  obtain ⟨pre, post, rfl⟩ := List.append_of_mem he
  have hexplained := hJ pre e post rfl
  cases e with
  | hashReturned call queryId hash =>
    cases hc
    exact Issued.mono hexplained
  | hashSent call queryId hash recipient dm =>
    cases hc
    exact Issued.mono hexplained
  | _ => cases hc

theorem issued_of_release (hJ : Justified (EventExplained cfg C P) tr) (he : e ∈ tr)
    {pk p : String} (hr : e.release = some (q, pk, p)) : ∃ h, Issued tr q h ∧ P h p := by
  obtain ⟨pre, post, rfl⟩ := List.append_of_mem he
  have hexplained := hJ pre e post rfl
  cases e with
  | preimagePublished call queryId providerPubkey hash preimage dm =>
    cases hr
    obtain ⟨d, rfl, -, hreleased⟩ := hexplained
    exact ⟨hash, hreleased.issued.mono, hreleased.entry⟩
  | _ => cases hr

variable (cfg) in
/--
In every run in which hashes are created only for query ids that have none and are getting none,
from an unused service whose store maps hashes to their preimages: all hashes returned or sent for a
query id are equal, and every preimage released for it hashes to that value.
-/
theorem one_hash_for_each_query (preimages : JsMap String String)
    (hstore : ∀ h p, preimages.get? h = some p → cfg.sha256 p = h) {tr : List Event}
    {s : CallState Tables Pending}
    (hrun : Run (oracleService cfg).machine (FreshIssue cfg) (initialState preimages) tr s) :
    (∀ e ∈ tr, ∀ e' ∈ tr, ∀ q h h', e.commitment = some (q, h) → e'.commitment = some (q, h') →
      h = h') ∧
    ∀ e ∈ tr, ∀ e' ∈ tr, ∀ q h pk p, e.commitment = some (q, h) → e'.release = some (q, pk, p) →
      cfg.sha256 p = h := by
  have hJ : Justified (EventExplained cfg (fun _ => True) fun h p => cfg.sha256 p = h) tr :=
    explained_of_run (fun _ => rfl) hstore (fun _ x _ => x.admitted_any) hrun
  have hcommitted := committed_of_run hrun
  refine ⟨fun e he e' he' q h h' hc hc' => ?_, fun e he e' he' q h pk p hc hr => ?_⟩
  · exact hcommitted.unique q h h' (issued_of_commitment hJ he hc) (issued_of_commitment hJ he' hc')
  · obtain ⟨h', hissued, hhash⟩ := issued_of_release hJ he' hr
    rw [hhash]
    exact hcommitted.unique q h' h hissued (issued_of_commitment hJ he hc)

def plainHashRequest : Protocol.Event where
  id := "h"
  pubkey := "customer"
  kind := kindDirectMessage
  createdAt := .ofInt 1
  tags := [["p", "oracle"]]
  content := plainKey "oracle" "customer" ++ stringifyPayload .safeIntegers
    [("type", .str "hash_request"), ("query_id", .str "q")] payloadVersion

/-- A hash is asked for, asked for again by direct message, and its preimage released. -/
def askedTwice : List (CallAction Request (Answer × Moment)) :=
  hashActions 0 "s" ++ ([.begin (.directMessage plainHashRequest "t" plainMoment),
    .resume 1 (.resolved, plainMoment)] ++ deliveryActions 2)

theorem admits_askedTwice : (oracleService plainConfig).machine.Admits (FreshIssue plainConfig)
    (initialState .empty) askedTwice := by
  have hfirst : (oracleService plainConfig).machine.Admits (FreshIssue plainConfig)
      (initialState .empty) (hashActions 0 "s") :=
    ⟨fun q _ => ⟨List.not_mem_nil, fun c hc => absurd hc List.not_mem_nil⟩,
      fun _ _ => ⟨trivial, fun _ _ => ⟨trivial, fun _ _ => trivial⟩⟩⟩
  have hmiss : ((oracleService plainConfig).machine.exec (initialState .empty)
      (hashActions 0 "s")).map (fun r =>
        missOf plainConfig r.1.shared (.directMessage plainHashRequest "t" plainMoment))
      = some none := by decide +kernel
  refine hfirst.append fun r hr => ⟨fun q hq => ?_, fun r' _ => ⟨trivial, fun r'' _ => ?_⟩⟩
  · rw [hr] at hmiss
    have hnone : missOf plainConfig r.1.shared (.directMessage plainHashRequest "t" plainMoment)
        = none := Option.some.inj hmiss
    rw [hnone] at hq
    cases hq
  · refine Machine.admits_of_forall _ _ _ ?_
    simp [deliveryActions, FreshIssue, missOf]

/-- The query is asked for twice, and its preimage is released. -/
theorem one_hash_asked_twice :
    ∃ tr s, Run (oracleService plainConfig).machine (FreshIssue plainConfig) (initialState .empty)
        tr s ∧
      (tr.filterMap Event.commitment, tr.filterMap Event.release) =
        ([("q", "hash of s"), ("q", "hash of s")], [("q", "pk", "s")]) ∧
      ∀ e ∈ tr, ∀ e' ∈ tr, ∀ q h pk p, e.commitment = some (q, h) →
        e'.release = some (q, pk, p) → plainConfig.sha256 p = h := by
  have hexec : ((oracleService plainConfig).machine.exec (initialState .empty) askedTwice).map
        (fun r => (r.2.filterMap Event.commitment, r.2.filterMap Event.release))
      = some ([("q", "hash of s"), ("q", "hash of s")], [("q", "pk", "s")]) := by decide +kernel
  obtain ⟨tr, s, hrun, hevents⟩ := Run.exists_of_exec
    (f := fun tr => (tr.filterMap Event.commitment, tr.filterMap Event.release))
    admits_askedTwice hexec
  exact ⟨tr, s, hrun, hevents,
    (one_hash_for_each_query plainConfig .empty (by simp) hrun).2⟩

/-- Two requests find no hash and both create one. And after the release a new hash is created for a
query id whose first hash has been given out. -/
theorem two_hashes_for_one_query :
    (∃ tr s, Run (oracleService plainConfig).machine AnyStep (initialState .empty) tr s ∧
      tr.filterMap Event.commitment = [("q", "hash of a"), ("q", "hash of b")]) ∧
    ∃ tr s, Run (oracleService plainConfig).machine AnyStep (initialState .empty) tr s ∧
      tr.filterMap Event.commitment = [("q", "hash of s"), ("q", "hash of t")] := by
  constructor
  · have hexec : ((oracleService plainConfig).machine.exec (initialState .empty)
        [.begin (.generateRequestHash "q" "a"), .begin (.generateRequestHash "q" "b"),
          .resume 0 (.resolved, plainMoment), .resume 1 (.resolved, plainMoment),
          .resume 0 (.resolved, plainMoment), .resume 1 (.resolved, plainMoment)]).map
          (fun r => r.2.filterMap Event.commitment)
        = some [("q", "hash of a"), ("q", "hash of b")] := by decide
    exact Run.exists_of_exec (Machine.admits_anyStep _ _ _) hexec
  · have hexec : ((oracleService plainConfig).machine.exec (initialState .empty)
        (hashActions 0 "s" ++ deliveryActions 1 ++ hashActions 4 "t")).map
          (fun r => r.2.filterMap Event.commitment)
        = some [("q", "hash of s"), ("q", "hash of t")] := by decide +kernel
    exact Run.exists_of_exec (Machine.admits_anyStep _ _ _) hexec

end Anchr.Oracle
