import Anchr.Customer.Properties.Purchase

/-!
# Recovery material

Once `bindProvider` has resolved, the Customer's money is in the lock. Whatever happens then,
`request` is to hand out the proofs and the token of the lock, the key that refunds it and the
change.
-/

namespace Anchr.Customer

open Infra Protocol

/-! ## Statement -/

/-- A result with the material of a lock. -/
structure RequestResult.Gives (result : RequestResult) (lock : CashuToken)
    (refundSecretKey : String) : Prop where
  proofs : result.paymentLockProofs = lock.proofs
  token : result.paymentLockToken = lock.token
  refundSecretKey : result.paymentLockRefundSecretKey = refundSecretKey
  change : result.paymentChangeProofs =
    if lock.paymentChangeProofs.isEmpty then none else some lock.paymentChangeProofs

def Event.isBindCall : Event → Bool
  | .bindCalled .. => true
  | _ => false

section

variable {N : NostrTools} {cfg : CustomerContext}

/-- One `bindProvider`, and the material of its lock in every outcome. -/
structure RecoveryKept (tr : List Event) (s : CallState Tables (Pending N cfg)) (call : Nat) :
    Prop where
  once : (ownEvents Event.callOf call tr).countP Event.isBindCall ≤ 1
  amount : ∀ params, .bindCalled call params ∈ tr → ∃ options offer,
    .requestStarted call options ∈ tr ∧ .offerSelected call offer ∈ tr ∧
      params.amountSats = offer.amountSats ∧
      params.amountSats.le options.payment.maxAmount = true
  settled : ∀ lock, .lockBound call lock ∈ tr → s.calls.get? call = none →
    (∃ result, .resolvedWith call result ∈ tr) ∨ ∃ reason, .rejected call reason ∈ tr
  resolved : ∀ lock result, .lockBound call lock ∈ tr → .resolvedWith call result ∈ tr →
    ∃ params, .bindCalled call params ∈ tr ∧ result.Gives lock params.customerSecretKey
  rejected : ∀ lock reason, .lockBound call lock ∈ tr → .rejected call reason ∈ tr →
    ∃ params error, .bindCalled call params ∈ tr ∧ reason = .error error ∧
      Carries error lock params.customerSecretKey
  /-- One that is not settled will be, if what it waits for answers. -/
  settles : ∀ lock p, .lockBound call lock ∈ tr → s.calls.get? call = some p →
    (customerService N cfg).SettlesWithin call 7 p

/-! ## Of one request -/

variable {call : Nat} {evs : List Event} {o : Option (Pending N cfg)} {lock : CashuToken}

theorem attachable_of_fresh {err : Thrown} (h : Fresh err) (lock : CashuToken)
    (refundSecretKey : String) : Attachable lock refundSecretKey err := by
  obtain ⟨error, rfl, hextensible, hproperties⟩ := h
  intro m _
  have hnone : error.properties.get? m.1 = none := by
    rw [hproperties]
    rfl
  rw [ErrorObject.Admits, hnone]
  exact hextensible

theorem lock_eq (h : (stages N cfg Attachable).Progress call evs o) {lock' : CashuToken}
    (hlock : .lockBound call lock ∈ evs) (hlock' : .lockBound call lock' ∈ evs) : lock' = lock := by
  have heq := h.eq_of_stage hlock hlock' rfl
  injection heq with _ heq
  exact heq.symm

theorem gives_of_resolved (h : (stages N cfg Attachable).Progress call evs o)
    {result : RequestResult} (hlock : .lockBound call lock ∈ evs)
    (hresolved : .resolvedWith call result ∈ evs) :
    ∃ params, .bindCalled call params ∈ evs ∧ result.Gives lock params.customerSecretKey := by
  obtain ⟨pre, post, heq, r, response, hknown, rfl⟩ := h.justifies hresolved
  have hsub : pre ⊆ evs := by
    rw [heq]
    exact List.subset_append_left _ _
  obtain ⟨⟨-, -, hbind⟩, hlock'⟩ := hknown.subset hsub
  obtain rfl := lock_eq h hlock hlock'
  exact ⟨r.bindParams, hbind, rfl, rfl, rfl, rfl⟩

variable {reason : Thrown}

theorem lockBound_mem_of_rejected (h : (stages N cfg Attachable).Progress call evs o)
    {pre post : List Event} (heq : evs = pre ++ .rejected call reason :: post)
    (hlock : .lockBound call lock ∈ evs) : .lockBound call lock ∈ pre := by
  have hordered := h.ordered
  rw [heq, List.map_append, List.map_cons, List.pairwise_append, List.pairwise_cons] at hordered
  rw [heq] at hlock
  rcases List.mem_append.mp hlock with hpre | hrest
  · exact hpre
  · rcases List.mem_cons.mp hrest with hrejected | hpost
    · cases hrejected
    · have hlt := hordered.2.1.1 _ (List.mem_map_of_mem hpost)
      exact absurd hlt (by decide : ¬14 < 6)

theorem carries_of_rejected (h : (stages N cfg Attachable).Progress call evs o)
    (hlock : .lockBound call lock ∈ evs) (hrejected : .rejected call reason ∈ evs) :
    ∃ params error, .bindCalled call params ∈ evs ∧ reason = .error error ∧
      Carries error lock params.customerSecretKey := by
  obtain ⟨pre, post, heq, hjustified⟩ := h.justifies hrejected
  have hsub : pre ⊆ evs := by
    rw [heq]
    exact List.subset_append_left _ _
  rcases hjustified with hnone | ⟨r, lock', err, hknown, herr, rfl⟩
  · exact absurd (lockBound_mem_of_rejected h heq hlock) (hnone lock)
  · obtain ⟨⟨-, -, hbind⟩, hlock'⟩ := hknown.subset hsub
    obtain rfl := lock_eq h hlock hlock'
    have hattachable : Attachable lock' r.identity.secretKey err := by
      rcases herr with hfresh | hattachable
      · exact attachable_of_fresh hfresh _ _
      · exact hattachable
    obtain ⟨error, hattached, hcarries⟩ := carries_attached hattachable
    refine ⟨r.bindParams, error, hbind, ?_, hcarries⟩
    rw [attachedReason, hattached]

theorem bound_of_bindCalled (h : (stages N cfg Attachable).Progress call evs o)
    {params : BindProviderParams} (hbind : .bindCalled call params ∈ evs) :
    ∃ options offer, .requestStarted call options ∈ evs ∧ .offerSelected call offer ∈ evs ∧
      params.amountSats = offer.amountSats ∧
      params.amountSats.le options.payment.maxAmount = true := by
  obtain ⟨pre, post, heq, r, hstarted, hselected, rfl⟩ := h.justifies hbind
  have hsub : pre ⊆ evs := by
    rw [heq]
    exact List.subset_append_left _ _
  refine ⟨r.options, r.selected, hsub hstarted, hsub hselected, rfl, ?_⟩
  exact JsNumber.le_of_not_lt (isFinite_of_isPositiveInteger r.valid)
    (isFinite_of_isPositiveInteger (validateRequest_none.mp r.accepted).maxAmount) r.affordable

/--
Take any run of a Customer in which every value that is thrown while a lock is bound is an error
that admits the properties, or converts to a string. A request calls `bindProvider` at most once,
with the amount of the selected offer, which is at most `maxAmount`. If `bindProvider` has resolved,
the request resolves with all of the lock's material or rejects with an error that carries it, after
at most seven more answers.
-/
theorem recovery_material_kept {store : JsMap String String} {tr : List Event}
    {s : CallState Tables (Pending N cfg)}
    (hrun : Run (customerService N cfg).machine (Throws Attachable) (initialState N cfg store) tr s)
    (call : Nat) : RecoveryKept tr s call := by
  have hmem : ∀ {e : Event}, e ∈ tr → e.callOf = call → e ∈ ownEvents Event.callOf call tr :=
    fun he hname => List.mem_filter.mpr ⟨he, decide_eq_true hname⟩
  have hown : ownEvents Event.callOf call tr ⊆ tr := fun _ => List.mem_of_mem_filter
  have hhistories := progress_of_run (V := Attachable) (fun _ _ h => h) hrun
  by_cases hcall : call < s.nextCall
  · have hprogress := hhistories.begun call hcall
    constructor
    · refine hprogress.countP_le_one (n := 5) fun e he => ?_
      cases e with
      | bindCalled _ _ => rfl
      | _ => cases he
    · intro params hbind
      obtain ⟨options, offer, hstarted, hselected, hamount⟩ :=
        bound_of_bindCalled hprogress (hmem hbind rfl)
      exact ⟨options, offer, hown hstarted, hown hselected, hamount⟩
    · intro lock _ hnone
      obtain ⟨e, he, hfinal⟩ := hprogress.ended hnone
      have hname : e.callOf = call := of_decide_eq_true (List.mem_filter.mp he).2
      cases e with
      | resolvedWith c result =>
        obtain rfl : c = call := hname
        exact .inl ⟨result, hown he⟩
      | rejected c reason =>
        obtain rfl : c = call := hname
        exact .inr ⟨reason, hown he⟩
      | _ => cases hfinal
    · intro lock result hlock hresolved
      obtain ⟨params, hbind, hgives⟩ :=
        gives_of_resolved hprogress (hmem hlock rfl) (hmem hresolved rfl)
      exact ⟨params, hown hbind, hgives⟩
    · intro lock reason hlock hrejected
      obtain ⟨params, error, hbind, hreason, hcarries⟩ :=
        carries_of_rejected hprogress (hmem hlock rfl) (hmem hrejected rfl)
      exact ⟨params, error, hown hbind, hreason, hcarries⟩
    · intro lock p hlock hp
      exact settlesWithin_of_stage call ((hprogress.suspended p hp).1 _ (hmem hlock rfl))
  · -- the request has not begun
    have hnone := (hhistories.future call (Nat.le_of_not_lt hcall)).1
    have hnever : ∀ {e : Event}, e ∈ tr → e.callOf ≠ call := by
      intro e he hname
      have hfalse := hmem he hname
      rw [hnone] at hfalse
      cases hfalse
    refine ⟨by rw [hnone]; exact Nat.zero_le 1, fun _ h => absurd rfl (hnever h),
      fun _ h => absurd rfl (hnever h), fun _ _ h => absurd rfl (hnever h),
      fun _ _ h => absurd rfl (hnever h), fun _ _ h => absurd rfl (hnever h)⟩

end

/-! ## Two requests -/

theorem throws_attachable {value : Thrown} (hvalue : ∀ lock key, Attachable lock key value)
    (s : CallState Tables (Pending Oracle.plainNostr plainContext)) (b : Answer × Draws)
    (hb : b ∈ plainHelpers.inputs ++ [(.threw value, plainDraws)]) :
    Throws Attachable s (.resume 0 b) := by
  have hthrown : ∀ b ∈ plainHelpers.inputs ++ [(.threw value, plainDraws)],
      ∀ v ∈ thrownIn b, v = plainDraws.thrown ∨ v = value := by
    simp +contextual [Helpers.inputs, plainHelpers, thrownIn, plainDraws]
  intro _ lock key _ _ v hv
  rcases hthrown b hb v hv with rfl | rfl
  · exact attachable_of_fresh ⟨_, rfl, rfl, rfl⟩ lock key
  · exact hvalue lock key

/-- A string is thrown: the request rejects with an error that has the material. -/
theorem recovery_material_kept_string :
    ∃ tr s selectionEvent reason,
      Run (customerService Oracle.plainNostr plainContext).machine (Throws Attachable)
        (initialState Oracle.plainNostr plainContext .empty) tr s ∧
      tr.filterMap Event.purchase = [(0, .started (plainOptions .null)),
        (0, .locked plainHelpers.lock), (0, .selected selectionEvent), (0, .rejected reason)] ∧
      RecoveryKept tr s 0 := by
  obtain ⟨tr, s, selectionEvent, hrun, hpurchase, -⟩ := run_plain .null
    (fun h => by cases h) (.other (some "relay is down")) (G := Throws Attachable)
    (fun _ _ => trivial) (throws_attachable fun _ _ => rfl)
  exact ⟨tr, s, selectionEvent, _, hrun, hpurchase, recovery_material_kept hrun 0⟩

/-- A relay client that freezes its errors. -/
def frozenError : ErrorObject where
  name := "Error"
  message := "relay is down"
  extensible := false

/-- A frozen error is thrown: the lock over 21 sats is bound, and the request rejects with an error
that has nothing of it. -/
theorem material_lost :
    ∃ tr s selectionEvent error,
      Run (customerService Oracle.plainNostr plainContext).machine AnyStep
        (initialState Oracle.plainNostr plainContext .empty) tr s ∧
      tr.filterMap Event.purchase = [(0, .started (plainOptions .null)),
        (0, .locked plainHelpers.lock), (0, .selected selectionEvent),
        (0, .rejected (.error error))] ∧
      error.message = "Cannot define property paymentLockProofs, object is not extensible" ∧
      ∀ m ∈ recoveryMaterial plainHelpers.lock "customer", error.properties.get? m.1 = none := by
  obtain ⟨tr, s, selectionEvent, hrun, hpurchase, -⟩ := run_plain .null
    (fun h => by cases h) (.error frozenError) (G := AnyStep) (fun _ _ => trivial)
    fun _ _ _ => trivial
  exact ⟨tr, s, selectionEvent, _, hrun, hpurchase, rfl, fun _ _ => rfl⟩

end Anchr.Customer
