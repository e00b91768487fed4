import Anchr.Requests.Properties.Selection

/-!
# Racing selections and offers

A selection commits the snapshot it read before its checks.
-/

namespace Anchr.Requests

open Infra

/-! ## The invariant -/

/-- Only offers for and selections of one query, and a suspended selection that is resumed and
commits finds the record as it read it. -/
def UndisturbedSelection (queryId : String) (s : State) : Action → Prop
  | .recordOffer id _ => id = queryId
  | .selectProvider id _ _ => id = queryId
  | .resume call answer _ => ∀ p id query, s.calls.get? call = some p → p.Commits answer →
      p.snapshot = some (id, query) → s.store.get? id = some query
  | _ => False

structure Linear (queryId : String) (tr : List Event) (s : State) : Prop where
  calls : ∀ call p, s.calls.get? call = some p →
    p.method = .select ∧ ∃ query, p.snapshot = some (queryId, query)
  atMostOne : okSelections tr ≤ 1
  chosen : okSelections tr = 1 →
    ∃ query, s.store.get? queryId = some query ∧ query.status = .providerSelected
  offers : ∀ offer, .offerRecorded queryId offer ∈ tr →
    ∃ query, s.store.get? queryId = some query ∧ offer ∈ query.offers.getD []

section

variable {deps : ServiceDeps} {queryId : String} {tr : List Event} {s s' : State}

theorem Linear.none_chosen {query : Query} (h : Linear queryId tr s)
    (hget : s.store.get? queryId = some query) (hs : query.status = .awaitingOffers) :
    okSelections tr = 0 := by
  have hle := h.atMostOne
  by_contra hne
  obtain ⟨q, hq, hsel⟩ := h.chosen (by omega)
  rw [hget] at hq
  rw [← Option.some.inj hq, hs] at hsel
  cases hsel

theorem doRecordOffer_cases (store : QueryStore) (queryId : String) (offer : OfferInfo) :
    ((doRecordOffer store queryId offer).1 = none ∧
        (doRecordOffer store queryId offer).2.ok = false) ∨
      ∃ query, store.get? queryId = some query ∧ query.status = .awaitingOffers ∧
        (doRecordOffer store queryId offer).1
          = some (queryId, { query with offers := some (query.offers.getD [] ++ [offer]) }) ∧
        (doRecordOffer store queryId offer).2.ok = true := by
  unfold doRecordOffer transact
  split
  · exact .inl ⟨rfl, rfl⟩
  · next query hget =>
    split
    · exact .inl ⟨rfl, rfl⟩
    · next query' hok =>
      obtain ⟨-, hs, rfl⟩ := addOffer_ok hok
      exact .inr ⟨query, hget, hs, rfl, rfl⟩

variable {evs : List Event} {answer : Answer} {now : JsNumber} {call : Nat}

theorem Linear.recordOffer {offer : OfferInfo} (h : Linear queryId tr s)
    (hstep : step deps s (.recordOffer queryId offer) = some (s', evs)) :
    Linear queryId (tr ++ evs) s' := by
  cases hstep
  rcases doRecordOffer_cases s.store queryId offer with ⟨hw, hok⟩ | ⟨query, hget, hs, hw, hok⟩
  · rw [hw, hok, if_neg (by decide), List.append_nil]
    exact ⟨h.calls, h.atMostOne, h.chosen, h.offers⟩
  · have hzero : okSelections (tr ++ [.offerRecorded queryId offer]) = 0 := by
      rw [okSelections_append, h.none_chosen hget hs]
      rfl
    rw [hw, hok, if_pos rfl]
    refine ⟨h.calls, by omega, fun hone => by omega, fun o ho => ?_⟩
    refine ⟨_, JsMap.get?_set_self _ _ _, ?_⟩
    rw [Option.getD_some, List.mem_append]
    rcases List.mem_append.mp ho with hold | hnew
    · obtain ⟨q, hq, hmem⟩ := h.offers o hold
      rw [hget] at hq
      rw [Option.some.inj hq]
      exact .inl hmem
    · injection List.mem_singleton.mp hnew with _ he
      exact .inr (by rw [he]; exact List.mem_singleton_self _)

/-- A turn of a selection that commits, if it does, over the stored record. -/
theorem Linear.turn {turn : Turn} {call : Nat} (h : Linear queryId tr s) (hreports : turn.Reports)
    (hof : turn.Of call .select)
    (hwrite : ∀ id query', turn.write = some (id, query') → id = queryId ∧
      ∃ query pk updates, s.store.get? queryId = some query ∧
        selectProvider query pk updates = .ok query')
    (hstore : s'.store = commit s.store turn.write)
    (hcalls : ∀ call p, s'.calls.get? call = some p →
      p.method = .select ∧ ∃ query, p.snapshot = some (queryId, query)) :
    Linear queryId (tr ++ turn.events) s' := by
  have hold : ∀ offer, .offerRecorded queryId offer ∈ tr ++ turn.events →
      .offerRecorded queryId offer ∈ tr := by
    intro offer hmem
    rcases List.mem_append.mp hmem with hold | hnew
    · exact hold
    · exact (hof.1 _ hnew).elim
  have hcount := hreports.2
  cases hw : turn.write with
  | none =>
    rw [hw] at hcount hstore
    have hsame : okSelections (tr ++ turn.events) = okSelections tr := by
      rw [okSelections_append, hcount]
      rfl
    refine ⟨hcalls, by rw [hsame]; exact h.atMostOne, fun hone => ?_, fun offer ho => ?_⟩
    · rw [hstore]
      exact h.chosen (by rw [← hsame]; exact hone)
    · rw [hstore]
      exact h.offers offer (hold offer ho)
  | some w =>
    obtain ⟨hid, query, pk, updates, hget, hok⟩ := hwrite w.1 w.2 hw
    obtain ⟨escrow, -, hs, hquery'⟩ := selectProvider_ok hok
    rw [hw] at hcount hstore
    have hstored : s'.store.get? queryId = some w.2 := by
      rw [hstore, ← hid]
      exact JsMap.get?_set_self _ _ _
    have hone : okSelections (tr ++ turn.events) = 1 := by
      rw [okSelections_append, h.none_chosen hget hs, hcount]
      rfl
    refine ⟨hcalls, by omega, fun _ => ⟨w.2, hstored, by rw [hquery']⟩, fun offer ho => ?_⟩
    obtain ⟨q, hq, hmem⟩ := h.offers offer (hold offer ho)
    rw [hget] at hq
    rw [← Option.some.inj hq] at hmem
    exact ⟨w.2, hstored, by rw [hquery']; exact hmem⟩

theorem resume_selection_write {p : Pending} {turn : Turn} {id : String} {query' : Query}
    (hp : p.method = .select) (h : p.resume deps call now answer = some turn)
    (hw : turn.write = some (id, query')) :
    ∃ query pk updates, p.snapshot = some (id, query) ∧
      selectProvider query pk updates = .ok query' := by
  cases resumes_of_resume h with
  | amountChecked =>
    obtain ⟨-, rfl, updates, hok⟩ := amountChecked_write hw
    exact ⟨_, _, updates, rfl, hok⟩
  | lockChecked =>
    obtain ⟨-, rfl, hok⟩ := lockChecked_write hw
    exact ⟨_, _, _, rfl, hok⟩
  | threw => cases hw
  | _ => cases hp

theorem Linear.selectProvider {pk : String} {token : Option String} (h : Linear queryId tr s)
    (hstep : step deps s (.selectProvider queryId pk token) = some (s', evs)) :
    Linear queryId (tr ++ evs) s' := by
  cases hstep
  refine h.turn (reports_doSelectProvider ..) (of_doSelectProvider ..) ?_ rfl ?_
  · intro id query' hw
    obtain ⟨rfl, query, hget, hok⟩ := doSelectProvider_write hw
    exact ⟨rfl, query, pk, _, hget, hok⟩
  · intro call p hcall
    rcases calls_begin hcall with ⟨-, hp⟩ | hold
    · obtain ⟨query, ref, -, -, hcheck⟩ := doSelectProvider_pending hp
      rcases checkAmount_pending hcheck with ⟨sats, -, rfl⟩ | ⟨-, hash, -, rfl⟩
      · exact ⟨rfl, query, rfl⟩
      · exact ⟨rfl, query, rfl⟩
    · exact h.calls call p hold

theorem Linear.resume (h : Linear queryId tr s)
    (hG : UndisturbedSelection queryId s (.resume call answer now))
    (hstep : step deps s (.resume call answer now) = some (s', evs)) :
    Linear queryId (tr ++ evs) s' := by
  obtain ⟨p, turn, hcall, hresume, rfl, rfl⟩ := step_resume hstep
  obtain ⟨hmethod, query, hsnap⟩ := h.calls call p hcall
  have hof := of_resume hresume
  rw [hmethod] at hof
  refine h.turn (reports_resume hmethod hresume) hof ?_ rfl ?_
  · intro id query' hw
    have hcommits := (resume_write hresume hw).1
    obtain ⟨q, pk, updates, hsnap', hok⟩ := resume_selection_write hmethod hresume hw
    rw [hsnap] at hsnap'
    obtain ⟨rfl, rfl⟩ := Prod.mk.inj (Option.some.inj hsnap')
    exact ⟨rfl, query, pk, updates, hG p _ query hcall hcommits hsnap, hok⟩
  · intro call' p' hcall'
    rcases calls_continue hcall' with ⟨-, hp'⟩ | hold
    · have hmethod' := hof.2 p' hp'
      refine ⟨hmethod', ?_⟩
      rcases resume_pending hresume hp' with hsame | hnone
      · exact ⟨query, hsame.trans hsnap⟩
      · cases p' <;> cases hmethod' <;> cases hnone
    · exact h.calls call' p' hold

theorem Linear.step {a : Action} (h : Linear queryId tr s) (hG : UndisturbedSelection queryId s a)
    (hstep : step deps s a = some (s', evs)) :
    Linear queryId (tr ++ evs) s' := by
  cases a with
  | recordOffer id offer =>
    obtain rfl : id = queryId := hG
    exact h.recordOffer hstep
  | selectProvider id pk token =>
    obtain rfl : id = queryId := hG
    exact h.selectProvider hstep
  | resume call answer now => exact h.resume hG hstep
  | _ => exact hG.elim

end

/-! ## Every run -/

/--
Offers and selections of one query, interleaved in any way. If every suspended selection that
commits finds the record as it read it, at most one selection succeeds and no recorded offer is
ever missing from the record.
-/
theorem selection_linearizable (deps : ServiceDeps) (queryId : String) (s₀ s : State)
    (tr : List Event) (h₀ : s₀.calls = .empty)
    (h : Run (queryService deps) (UndisturbedSelection queryId) s₀ tr s) :
    okSelections tr ≤ 1 ∧ ∀ offer, .offerRecorded queryId offer ∈ tr →
      ∃ query, s.store.get? queryId = some query ∧ offer ∈ query.offers.getD [] := by
  have hinit : Linear queryId [] s₀ := by
    refine ⟨fun call p hcall => ?_, Nat.zero_le 1, nofun, fun offer ho => ?_⟩
    · rw [h₀] at hcall
      cases hcall
    · cases ho
  have hlin := Run.invariant (I := Linear queryId) hinit (fun hI hG hstep => hI.step hG hstep) h
  exact ⟨hlin.atMostOne, hlin.offers⟩

/-- How many selections succeeded, and whose offers were recorded and are still in the record. -/
def selectionSummary (s : State) (actions : List Action) :
    Option (Nat × List String × List String) :=
  ((queryService (.wired true false false)).exec s actions).map fun r =>
    (okSelections r.2,
      r.2.filterMap fun
        | .offerRecorded _ offer => some offer.providerPubkey
        | _ => none,
      ((r.1.store.get? "q").elim [] fun q => q.offers.getD []).map OfferInfo.providerPubkey)

def offerOf (pk : String) : OfferInfo where
  providerPubkey := pk
  offerEventId := "e"
  receivedAt := .ofInt 0

def awaitingHtlc : State :=
  .holding (escrowQuery .awaitingOffers { openEscrow (.htlc "h") with escrowToken := some "t" })
    none .empty

def offeredAndSelected : List Action :=
  [.recordOffer "q" (offerOf "pk"), .selectProvider "q" "pk" none,
    .resume 0 (.amount { valid := true }) (.ofInt 0), lockPasses]

/-- An offer, and a selection that is verified and commits: the offer is in the record. -/
theorem selection_linearizable_offer :
    ∃ tr s query, Run (queryService (.wired true false false))
        (UndisturbedSelection "q") awaitingHtlc tr s ∧
      .offerRecorded "q" (offerOf "pk") ∈ tr ∧ okSelections tr = 1 ∧
      s.store.get? "q" = some query ∧ offerOf "pk" ∈ query.offers.getD [] := by
  obtain ⟨⟨s, tr⟩, hexec⟩ : ∃ r, (queryService (.wired true false false)).exec awaitingHtlc
      offeredAndSelected = some r := ⟨_, rfl⟩
  have hadmits : (queryService (.wired true false false)).Admits
      (UndisturbedSelection "q") awaitingHtlc offeredAndSelected := by
    refine ⟨rfl, fun s₁ h₁ => ?_⟩
    cases h₁
    refine ⟨rfl, fun s₂ h₂ => ?_⟩
    cases h₂
    refine ⟨?_, fun s₃ h₃ => ?_⟩
    · intro p id query hcall _ hsnap
      cases hcall
      cases hsnap
      rfl
    · cases h₃
      refine ⟨?_, fun _ _ => trivial⟩
      intro p id query hcall _ hsnap
      cases hcall
      cases hsnap
      rfl
  have hrun := Run.of_exec _ .start hadmits hexec
  rw [List.nil_append] at hrun
  cases hexec
  obtain ⟨query, hget, hoffer⟩ := (selection_linearizable _ "q" awaitingHtlc _ _ rfl hrun).2
    (offerOf "pk") List.mem_cons_self
  exact ⟨_, _, query, hrun, List.mem_cons_self, rfl, hget, hoffer⟩

/-- Two selections read the same record and both succeed; and a selection that was suspended
throws away the offers recorded meanwhile. -/
theorem two_selections :
    selectionSummary awaitingHtlc
        [.selectProvider "q" "pk" none, .selectProvider "q" "pk2" none,
          .resume 0 (.amount { valid := true }) (.ofInt 0), lockPasses,
          .resume 1 (.amount { valid := true }) (.ofInt 0),
          .resume 1 (.lock { ok := true }) (.ofInt 0)] = some (2, [], []) ∧
      selectionSummary awaitingHtlc
        [.selectProvider "q" "pk" none, .recordOffer "q" (offerOf "pk2"),
          .resume 0 (.amount { valid := true }) (.ofInt 0), lockPasses] =
      some (1, ["pk2"], []) := by
  constructor <;> decide

end Anchr.Requests
