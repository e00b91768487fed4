import Anchr.Requests.History

/-!
# Selecting a Provider

`selectProvider` checks an escrow reference, may be suspended twice meanwhile, and commits the
snapshot it read at the beginning.
-/

namespace Anchr.Requests

open Infra

/-! ## What precedes a stored selection -/

/-- A locked amount was checked for `ref` and found valid. -/
def AmountValid (tr : List Event) (call : Nat) (query : Query) (ref : String) : Prop :=
  ∀ sats, query.expectedSats = some sats →
    ∃ check, .amountChecked call ref sats check ∈ tr ∧ check.valid = true

/-- An HTLC lock was checked for `ref`, the hash of the query and this Provider. -/
def LockOk (tr : List Event) (call : Nat) (query : Query) (pk ref : String) : Prop :=
  ∀ hash, query.paymentHash = some hash →
    ∃ check, .lockChecked call ref hash pk check ∈ tr ∧ check.ok = true

def SelectionJustified (pre : List Event) : Event → Prop
  | .providerSelected call _ stored =>
    ∃ query pk token escrow, .selectBegan call query pk token ∈ pre ∧
      stored.escrow = some escrow ∧ escrow.providerPubkey = some pk ∧
      escrow.escrowToken = token.or (query.escrow.bind (·.escrowToken)) ∧
      ∀ ref, settledRef query token = some ref → ref ≠ "" →
        AmountValid pre call query ref ∧ LockOk pre call query pk ref
  | .selectReturned call outcome => outcome.ok = true →
    ∃ queryId stored, .providerSelected call queryId stored ∈ pre
  | _ => True

def Selection.Began (tr : List Event) (call : Nat) (p : Selection) : Prop :=
  ∃ token, .selectBegan call p.query p.providerPubkey token ∈ tr ∧
    settledRef p.query token = some p.escrowRef ∧
    p.updates.escrowToken = token.map some ∧ p.updates.providerPubkey = none

def SelectionExplained (tr : List Event) (call : Nat) : Pending → Prop
  | .selectAmount p sats => p.Began tr call ∧ p.query.expectedSats = some sats
  | .selectLock p hash =>
    p.Began tr call ∧ p.query.paymentHash = some hash ∧ AmountValid tr call p.query p.escrowRef
  | _ => True

variable {tr evs : List Event} {call : Nat} {query : Query} {p : Selection} {turn : Turn}
  {deps : ServiceDeps}

theorem AmountValid.mono {ref : String} (h : AmountValid tr call query ref) :
    AmountValid (tr ++ evs) call query ref := by
  intro sats hsats
  obtain ⟨check, hmem, hvalid⟩ := h sats hsats
  exact ⟨check, List.mem_append_left _ hmem, hvalid⟩

theorem Selection.Began.mono (h : p.Began tr call) : p.Began (tr ++ evs) call := by
  obtain ⟨token, hmem, hrest⟩ := h
  exact ⟨token, List.mem_append_left _ hmem, hrest⟩

theorem SelectionExplained.mono {tr evs : List Event} {call : Nat} {p : Pending}
    (h : SelectionExplained tr call p) : SelectionExplained (tr ++ evs) call p := by
  cases p with
  | selectAmount p sats => exact ⟨h.1.mono, h.2⟩
  | selectLock p hash => exact ⟨h.1.mono, h.2.1, h.2.2.mono⟩
  | _ => trivial

variable {outcome : HtlcOutcome} {token : Option String} {queryId : String} {answer : Answer}
  {now : JsNumber}

theorem explained_of_refused (h : outcome.ok = false) :
    Turn.Explained SelectionExplained SelectionJustified tr call
      { events := [.selectReturned call outcome] } := by
  refine .returned ⟨fun hok => ?_, trivial⟩
  rw [h] at hok
  cases hok

theorem explained_commitSelection {pk : String} {updates : EscrowSelectionUpdates}
    (hbegan : .selectBegan call query pk token ∈ tr)
    (htoken : updates.escrowToken = token.map some) (hpk : updates.providerPubkey = none)
    (hchecked : ∀ ref, settledRef query token = some ref → ref ≠ "" →
      AmountValid tr call query ref ∧ LockOk tr call query pk ref) :
    (commitSelection call queryId query pk updates).Explained SelectionExplained SelectionJustified
      tr call := by
  unfold commitSelection
  split
  · exact explained_of_refused rfl
  · next stored hok =>
    obtain ⟨escrow, he, -, hstored⟩ := selectProvider_ok hok
    refine .returned ⟨?_, fun _ => ⟨queryId, stored, by simp⟩, trivial⟩
    refine ⟨query, pk, token, escrow.applySelection pk updates, hbegan, by rw [hstored], ?_, ?_,
      hchecked⟩
    · simp [EscrowInfo.applySelection, hpk]
    · rw [he]
      cases token <;> simp [EscrowInfo.applySelection, htoken]

theorem explained_checkLock (hbegan : p.Began tr call)
    (hamount : AmountValid tr call p.query p.escrowRef) :
    (p.checkLock call).Explained SelectionExplained SelectionJustified tr call := by
  unfold Selection.checkLock
  split
  · next hash hhash =>
    refine ⟨trivial, fun p' hp' => ?_⟩
    rw [← Option.some.inj hp', List.append_nil]
    exact ⟨hbegan, hhash, hamount⟩
  · next hnone =>
    obtain ⟨token, hmem, href, htoken, hpk⟩ := hbegan
    refine explained_commitSelection hmem htoken hpk fun ref href' _ => ?_
    rw [href] at href'
    rw [← Option.some.inj href']
    refine ⟨hamount, fun hash hhash => ?_⟩
    rw [hnone] at hhash
    cases hhash

theorem explained_checkAmount (hbegan : p.Began tr call) :
    (p.checkAmount call).Explained SelectionExplained SelectionJustified tr call := by
  unfold Selection.checkAmount
  split
  · next sats hsats =>
    refine ⟨trivial, fun p' hp' => ?_⟩
    rw [← Option.some.inj hp', List.append_nil]
    exact ⟨hbegan, hsats⟩
  · next hnone =>
    refine explained_checkLock hbegan fun sats hsats => ?_
    rw [hnone] at hsats
    cases hsats

theorem explained_doSelectProvider (deps : ServiceDeps) (tr : List Event) (store : QueryStore)
    (call : Nat) (queryId pk : String) (token : Option String) :
    (doSelectProvider deps store call queryId pk token).Explained SelectionExplained
      SelectionJustified tr call := by
  unfold doSelectProvider
  split
  · exact explained_of_refused rfl
  · next query hget =>
    split
    · exact explained_of_refused rfl
    · refine Turn.Explained.cons trivial ?_
      have hmem : Event.selectBegan call query pk token
          ∈ tr ++ [.selectBegan call query pk token] := by simp
      split
      · -- nothing to check: there is no reference, or it is empty
        next hnone =>
        refine explained_commitSelection hmem rfl rfl fun ref href hne => ?_
        rw [href] at hnone
        simp [Option.filter, hne] at hnone
      · next ref href =>
        have href' := (Option.filter_eq_some_iff.mp href).1
        split
        · exact explained_checkAmount ⟨token, hmem, href', rfl, rfl⟩
        · split
          · exact explained_of_refused rfl
          · next hno =>
            -- no port, but nothing that needs it either
            simp only [Bool.or_eq_true, Option.isSome_iff_ne_none, not_or, not_not] at hno
            refine explained_commitSelection hmem rfl rfl fun ref' _ _ => ⟨?_, ?_⟩
            · intro sats hsats
              rw [hno.1] at hsats
              cases hsats
            · intro hash hhash
              rw [hno.2] at hhash
              cases hhash

theorem explained_amountChecked {sats : JsNumber} {check : EscrowAmountResult}
    (hbegan : p.Began tr call) (hsats : p.query.expectedSats = some sats) :
    (p.amountChecked call sats check).Explained SelectionExplained SelectionJustified tr call := by
  unfold Selection.amountChecked
  refine Turn.Explained.cons trivial ?_
  split
  · next hvalid =>
    refine explained_checkLock hbegan.mono fun sats' hsats' => ?_
    rw [hsats] at hsats'
    rw [← Option.some.inj hsats']
    exact ⟨check, by simp, hvalid⟩
  · exact explained_of_refused rfl

theorem explained_lockChecked {hash : String} {check : EscrowTokenLockResult}
    (hbegan : p.Began tr call) (hhash : p.query.paymentHash = some hash)
    (hamount : AmountValid tr call p.query p.escrowRef) :
    (p.lockChecked call hash check).Explained SelectionExplained SelectionJustified tr call := by
  unfold Selection.lockChecked
  refine Turn.Explained.cons trivial ?_
  split
  · next hok =>
    obtain ⟨token, hmem, href, htoken, hpk⟩ := hbegan
    refine explained_commitSelection (List.mem_append_left _ hmem) htoken hpk fun ref href' _ => ?_
    rw [href] at href'
    rw [← Option.some.inj href']
    refine ⟨hamount.mono, fun hash' hhash' => ?_⟩
    rw [hhash] at hhash'
    rw [← Option.some.inj hhash']
    exact ⟨check, by simp, hok⟩
  · next hno => exact explained_of_refused rfl

theorem explained_of_ne_select {m : Method} (h : turn.Of call m) (hm : m ≠ .select) :
    turn.Explained SelectionExplained SelectionJustified tr call := by
  refine .of_forall (fun e he tr => ?_) (fun p hp tr => ?_)
  · have hof := h.1 e he
    cases e with
    | providerSelected => exact absurd hof.2 hm
    | selectReturned => exact absurd hof.2 hm
    | _ => trivial
  · have hmethod := h.2 p hp
    cases p with
    | selectAmount => exact absurd hmethod.symm hm
    | selectLock => exact absurd hmethod.symm hm
    | _ => trivial

theorem explained_resume {p : Pending} (hE : SelectionExplained tr call p)
    (h : p.resume deps call now answer = some turn) :
    turn.Explained SelectionExplained SelectionJustified tr call := by
  cases resumes_of_resume h with
  | amountChecked => exact explained_amountChecked hE.1 hE.2
  | lockChecked => exact explained_lockChecked hE.1 hE.2.1 hE.2.2
  | threw => exact .returned ⟨trivial, trivial⟩
  | _ => exact explained_of_ne_select (of_resume h) (by simp [Pending.method])

theorem explains_selection (deps : ServiceDeps) :
    Explains deps SelectionExplained SelectionJustified where
  mono := SelectionExplained.mono
  sync := by
    intro tr a e h
    cases e with
    | providerSelected => cases a <;> exact h.elim
    | selectReturned => cases a <;> exact h.elim
    | _ => trivial
  begin := by
    intro tr s a m turn h
    by_cases hm : m = .select
    · subst hm
      cases h with
      | refuses he => exact he.elim
      | selects => exact explained_doSelectProvider ..
    · exact explained_of_ne_select h.of hm
  resume := explained_resume
  serve h _ := by cases h <;> exact ⟨trivial, trivial⟩

/-! ## What a selection turn reports -/

def storedSelections (evs : List Event) : List (String × Query) :=
  evs.filterMap fun
    | .providerSelected _ queryId stored => some (queryId, stored)
    | _ => none

/-- How many calls report a selection. -/
def okSelections (evs : List Event) : Nat :=
  evs.countP fun
    | .selectReturned _ outcome => outcome.ok
    | _ => false

theorem storedSelections_append (evs evs' : List Event) :
    storedSelections (evs ++ evs') = storedSelections evs ++ storedSelections evs' :=
  List.filterMap_append

theorem okSelections_append (evs evs' : List Event) :
    okSelections (evs ++ evs') = okSelections evs + okSelections evs' :=
  List.countP_append

/-- A turn reports the selection it writes, and no other. -/
def Turn.Reports (turn : Turn) : Prop :=
  storedSelections turn.events = turn.write.toList ∧
    okSelections turn.events = turn.write.toList.length

theorem reports_of_refused (h : outcome.ok = false) :
    Turn.Reports { events := [.selectReturned call outcome] } := by
  simp [Turn.Reports, storedSelections, okSelections, h]

theorem reports_commitSelection (call : Nat) (queryId : String) (query : Query) (pk : String)
    (updates : EscrowSelectionUpdates) :
    (commitSelection call queryId query pk updates).Reports := by
  unfold commitSelection
  split
  · exact reports_of_refused rfl
  · simp [Turn.Reports, storedSelections, okSelections]

theorem reports_checkLock (p : Selection) (call : Nat) : (p.checkLock call).Reports := by
  unfold Selection.checkLock
  split
  · exact ⟨rfl, rfl⟩
  · exact reports_commitSelection ..

theorem reports_checkAmount (p : Selection) (call : Nat) : (p.checkAmount call).Reports := by
  unfold Selection.checkAmount
  split
  · exact ⟨rfl, rfl⟩
  · exact reports_checkLock ..

theorem Turn.Reports.cons {e : Event} (he : storedSelections [e] = [] ∧ okSelections [e] = 0)
    (h : turn.Reports) :
    Turn.Reports { turn with events := e :: turn.events } := by
  obtain ⟨hstored, hok⟩ := he
  have hsplit : ({ turn with events := e :: turn.events } : Turn).events = [e] ++ turn.events := rfl
  refine ⟨?_, ?_⟩
  · rw [hsplit, storedSelections_append, hstored]
    exact h.1
  · rw [hsplit, okSelections_append, hok, Nat.zero_add]
    exact h.2

theorem reports_doSelectProvider (deps : ServiceDeps) (store : QueryStore) (call : Nat)
    (queryId pk : String) (token : Option String) :
    (doSelectProvider deps store call queryId pk token).Reports := by
  unfold doSelectProvider
  split
  · exact reports_of_refused rfl
  · split
    · exact reports_of_refused rfl
    · refine Turn.Reports.cons ⟨rfl, rfl⟩ ?_
      split
      · exact reports_commitSelection ..
      · split
        · exact reports_checkAmount ..
        · split
          · exact reports_of_refused rfl
          · exact reports_commitSelection ..

theorem reports_amountChecked (p : Selection) (call : Nat) (sats : JsNumber)
    (check : EscrowAmountResult) : (p.amountChecked call sats check).Reports := by
  unfold Selection.amountChecked
  refine Turn.Reports.cons ⟨rfl, rfl⟩ ?_
  split
  · exact reports_checkLock ..
  · exact reports_of_refused rfl

theorem reports_lockChecked (p : Selection) (call : Nat) (hash : String)
    (check : EscrowTokenLockResult) : (p.lockChecked call hash check).Reports := by
  unfold Selection.lockChecked
  refine Turn.Reports.cons ⟨rfl, rfl⟩ ?_
  split
  · exact reports_commitSelection ..
  · next hno => exact reports_of_refused rfl

theorem reports_resume {p : Pending} (hp : p.method = .select)
    (h : p.resume deps call now answer = some turn) : turn.Reports := by
  cases resumes_of_resume h with
  | amountChecked => exact reports_amountChecked ..
  | lockChecked => exact reports_lockChecked ..
  | threw => exact ⟨rfl, rfl⟩
  | _ => cases hp

theorem get?_of_providerSelected {s s' : State} {a : Action} {stored : Query}
    (h : step deps s a = some (s', evs)) (hev : .providerSelected call queryId stored ∈ evs) :
    s'.store.get? queryId = some stored := by
  have hwrite : ∀ turn : Turn, turn.Reports → .providerSelected call queryId stored ∈ turn.events →
      turn.write = some (queryId, stored) := by
    intro turn hreports hmem
    have hsel : (queryId, stored) ∈ storedSelections turn.events :=
      List.mem_filterMap.mpr ⟨_, hmem, rfl⟩
    rw [hreports.1] at hsel
    simpa using hsel
  cases stepShape_of_step h with
  | sync _ _ _ hevs => exact absurd (hevs _ hev) (by cases a <;> exact id)
  | begin hbegins =>
    have hselect := (hbegins.of.1 _ hev).2
    subst hselect
    cases hbegins with
    | refuses he => exact he.elim
    | selects =>
      have hw := hwrite _ (reports_doSelectProvider ..) hev
      simp [State.begin, hw, commit]
  | resume hcall hresume =>
    have hselect := ((of_resume hresume).1 _ hev).2
    have hw := hwrite _ (reports_resume hselect hresume) hev
    simp [State.continue, hw, commit]
  | serve _ hserves => cases hserves <;> simp at hev

/-- The token comes from the record or from the call, and the record has no other reference. -/
def OneToken (query : Query) (token : Option String) : Prop :=
  query.escrow.bind (·.escrowRef) = none ∧
    (token = none ∨ query.escrow.bind (·.escrowToken) = none)

theorem OneToken.settledRef_eq (h : OneToken query token) :
    settledRef query token = token.or (query.escrow.bind (·.escrowToken)) := by
  obtain ⟨href, htoken⟩ := h
  rw [settledRef, href, Option.none_or]
  rcases htoken with htoken | htoken
  · rw [htoken, Option.or_none, Option.none_or]
  · rw [htoken, Option.none_or, Option.or_none]

/--
In every run, a selection that is stored, and that its call then reports as successful, was
preceded in the same call by a passing amount check and, for an HTLC escrow, a passing lock check
of the reference the record settles to. Where there is one token only, the token that is stored is
this reference.
-/
theorem selection_checked (deps : ServiceDeps) (G : State → Action → Prop) (s₀ s : State)
    (tr : List Event) (h₀ : s₀.calls = .empty) (h : Run (queryService deps) G s₀ tr s) :
    (∀ a s' evs call queryId stored, step deps s a = some (s', evs) →
      .providerSelected call queryId stored ∈ evs → s'.store.get? queryId = some stored) ∧
    (∀ pre post call outcome, tr = pre ++ .selectReturned call outcome :: post →
      outcome.ok = true → ∃ queryId stored, .providerSelected call queryId stored ∈ pre) ∧
    ∀ pre post call queryId stored, tr = pre ++ .providerSelected call queryId stored :: post →
      ∃ query pk token escrow, .selectBegan call query pk token ∈ pre ∧
        stored.escrow = some escrow ∧ escrow.providerPubkey = some pk ∧
        (OneToken query token → escrow.escrowToken = settledRef query token) ∧
        ∀ ref, settledRef query token = some ref → ref ≠ "" →
          AmountValid pre call query ref ∧ LockOk pre call query pk ref := by
  have hJ := ((explains_selection deps).run h₀ h).1
  refine ⟨fun _ _ _ _ _ _ hstep hev => get?_of_providerSelected hstep hev, ?_, ?_⟩
  · intro pre post call outcome htr hok
    exact hJ pre _ post htr hok
  · intro pre post call queryId stored htr
    obtain ⟨query, pk, token, escrow, hbegan, hescrow, hpk, htoken, hchecked⟩ := hJ pre _ post htr
    refine ⟨query, pk, token, escrow, hbegan, hescrow, hpk, fun hone => ?_, hchecked⟩
    rw [hone.settledRef_eq]
    exact htoken

def amountRefs (evs : List Event) : List String :=
  evs.filterMap fun
    | .amountChecked _ ref _ _ => some ref
    | _ => none

def lockRefs (evs : List Event) : List String :=
  evs.filterMap fun
    | .lockChecked _ ref _ _ _ => some ref
    | _ => none

/-- The tokens that are stored, and those that are checked. -/
def checkedTokens (s : State) (actions : List Action) :
    Option (List (Option String) × List String × List String) :=
  ((queryService (.wired true false false)).exec s actions).map fun r =>
    ((storedSelections r.2).map fun x => x.2.escrow.bind (·.escrowToken),
      amountRefs r.2, lockRefs r.2)

/-- A selection, up to the check of the amount. -/
def selectChecked (token : Option String) : List Action :=
  [.selectProvider "q" "pk" token,
    .resume 0 (.amount { valid := true, amountSats := some (.ofInt 100) }) (.ofInt 0)]

/-- The lock passes. -/
def lockPasses : Action := .resume 0 (.lock { ok := true }) (.ofInt 0)

theorem exists_of_mem_storedSelections {x : String × Query} (h : x ∈ storedSelections evs) :
    ∃ call, .providerSelected call x.1 x.2 ∈ evs := by
  obtain ⟨e, he, hx⟩ := List.mem_filterMap.mp h
  split at hx
  · rw [← Option.some.inj hx]
    exact ⟨_, he⟩
  · cases hx

/-- The token of an HTLC escrow is checked for amount and lock before it is stored. -/
theorem selection_checked_htlc :
    ∃ tr s pre post call queryId stored query pk token escrow,
      Run (queryService (.wired true false false)) AnyStep
        (.holding (escrowQuery .awaitingOffers (openEscrow (.htlc "h"))) none .empty) tr s ∧
      tr = pre ++ .providerSelected call queryId stored :: post ∧
      .selectBegan call query pk token ∈ pre ∧ stored.escrow = some escrow ∧
      ∀ ref, settledRef query token = some ref → ref ≠ "" →
        AmountValid pre call query ref ∧ LockOk pre call query pk ref := by
  have htokens : checkedTokens
      (.holding (escrowQuery .awaitingOffers (openEscrow (.htlc "h"))) none .empty)
      (selectChecked (some "t") ++ [lockPasses]) = some ([some "t"], ["t"], ["t"]) := by
    decide
  obtain ⟨⟨s, tr⟩, hexec, heq⟩ := Option.map_eq_some_iff.mp htokens
  have hrun := Run.of_exec _ .start (Machine.admits_anyStep _ _ _) hexec
  rw [List.nil_append] at hrun
  cases hsel : storedSelections tr with
  | nil => simp [hsel] at heq
  | cons x xs =>
    have hx : x ∈ storedSelections tr := by rw [hsel]; exact List.mem_cons_self
    obtain ⟨call, hmem⟩ := exists_of_mem_storedSelections hx
    obtain ⟨pre, post, htr⟩ := List.append_of_mem hmem
    obtain ⟨query, pk, token, escrow, hbegan, hescrow, -, -, hchecked⟩ :=
      (selection_checked _ _ _ s tr rfl hrun).2.2 pre post call x.1 x.2 htr
    exact ⟨tr, s, pre, post, call, x.1, x.2, query, pk, token, escrow, hrun, htr, hbegan, hescrow,
      hchecked⟩

/-- A FROST lock is not checked. And when the record already has a reference, a token that comes
with the selection is stored and the old reference is checked. -/
theorem frost_lock_unchecked :
    checkedTokens
        (.holding (escrowQuery .awaitingOffers (openEscrow (.p2pkFrost "g"))) none .empty)
        (selectChecked (some "t")) = some ([some "t"], ["t"], []) ∧
      checkedTokens
        (.holding (escrowQuery .awaitingOffers
          { openEscrow (.htlc "h") with escrowRef := some "ref" }) none .empty)
        (selectChecked (some "t") ++ [lockPasses]) = some ([some "t"], ["ref"], ["ref"]) := by
  constructor <;> decide

end Anchr.Requests
