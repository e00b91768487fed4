import Anchr.Requests.Properties.Release

/-!
# Preimages that `submitEscrowResult` takes out of the store

`tryRevealPreimage` reads a preimage, deletes it and only then returns it. The store forgets the
entry before its promise is settled, so a deletion that fails afterwards takes the preimage with it.
-/

namespace Anchr.Requests

open Infra

/-- Nobody else takes entries out of the store, and a deletion that the store has carried out is not
reported as failed. -/
def DeletionsResolve (s : State) : Action → Prop
  | .resume call .rejected _ => ∀ hash preimage updated,
      s.calls.get? call ≠ some (.escrowDeleted hash preimage updated)
  | .setPreimages preimages => ∀ hash, s.preimages.get? hash ≠ none → preimages.get? hash ≠ none
  | _ => True

/-- A call has returned the preimage that it read. -/
def HandedOver (tr : List Event) (hash : String) : Prop :=
  ∃ call outcome preimage, .preimageRead call hash (some preimage) ∈ tr ∧
    .escrowReturned call outcome ∈ tr ∧ outcome.preimage = some preimage

/-- A call holds the preimage, and the store has deleted it. -/
def HeldByCall (s : State) (hash : String) : Prop :=
  ∃ call preimage updated, s.calls.get? call = some (.escrowDeleted hash preimage updated)

/-- The preimage is in the store, has been returned, or is held by a call that waits for its
deletion. -/
def Retained (tr : List Event) (s : State) (hash : String) : Prop :=
  s.preimages.get? hash ≠ none ∨ HandedOver tr hash ∨ HeldByCall s hash

section

variable {deps : ServiceDeps} {tr evs : List Event} {s s' : State} {hash : String}

theorem HandedOver.mono (h : HandedOver tr hash) : HandedOver (tr ++ evs) hash := by
  obtain ⟨call, outcome, preimage, hread, hreturned, hpre⟩ := h
  exact ⟨call, outcome, preimage, List.mem_append_left _ hread, List.mem_append_left _ hreturned,
    hpre⟩

theorem Retained.other (call : Nat) (h : Retained tr s hash)
    (hpre : s.preimages.get? hash ≠ none → s'.preimages.get? hash ≠ none)
    (hcalls : ∀ c, c ≠ call → s'.calls.get? c = s.calls.get? c)
    (hself : ∀ preimage updated, s.calls.get? call = some (.escrowDeleted hash preimage updated) →
      Retained (tr ++ evs) s' hash) : Retained (tr ++ evs) s' hash := by
  rcases h with hin | hover | ⟨c, preimage, updated, hheld⟩
  · exact .inl (hpre hin)
  · exact .inr (.inl hover.mono)
  · by_cases hc : c = call
    · subst hc
      exact hself preimage updated hheld
    · exact .inr (.inr ⟨c, preimage, updated, by rw [hcalls c hc]; exact hheld⟩)

theorem Retained.begin {turn : Turn} (h : Retained tr s hash) (hn : Numbered tr s) :
    Retained (tr ++ turn.events) (s.begin turn).1 hash := by
  refine h.other s.nextCall id (fun c hc => ?_) fun preimage updated hheld => ?_
  · cases hp : turn.pending with
    | none => simp only [State.begin, hp]
    | some p =>
      simp only [State.begin, hp]
      exact JsMap.get?_set_ne _ _ hc
  · exact absurd (hn.calls _ _ hheld) (Nat.lt_irrefl _)

theorem Retained.resume {call : Nat} {answer : Answer} {now : JsNumber} {p : Pending} {turn : Turn}
    (h : Retained tr s hash) (hE : ReleaseExplained deps tr call p)
    (hG : DeletionsResolve s (.resume call answer now)) (hcall : s.calls.get? call = some p)
    (hresume : p.resume deps call now answer = some turn) :
    Retained (tr ++ turn.events) (s.continue call turn).1 hash := by
  refine h.other call id (fun c hc => ?_) fun preimage updated hheld => ?_
  · cases hp : turn.pending with
    | none =>
      simp only [State.continue, hp]
      exact JsMap.get?_delete_ne _ hc
    | some p' =>
      simp only [State.continue, hp]
      exact JsMap.get?_set_ne _ _ hc
  · rw [hcall] at hheld
    cases hheld
    cases resumes_of_resume hresume with
    | deletedPreimage =>
      have hreturned : ∃ outcome, .escrowReturned call outcome ∈
          (returnPreimage call preimage updated).events ∧ outcome.preimage = some preimage :=
        ⟨_, List.mem_singleton_self _, rfl⟩
      obtain ⟨outcome, hmem, hpre⟩ := hreturned
      exact .inr (.inl ⟨call, outcome, preimage, List.mem_append_left _ hE,
        List.mem_append_right _ hmem, hpre⟩)
    | threw => exact absurd hcall (hG hash preimage updated)

theorem Retained.step {a : Action} (h : Retained tr s hash) (hn : Numbered tr s)
    (hE : AllExplained (ReleaseExplained deps) tr s) (hG : DeletionsResolve s a)
    (hstep : Requests.step deps s a = some (s', evs)) : Retained (tr ++ evs) s' hash := by
  cases stepShape_of_step hstep with
  | sync hcalls _ hpre =>
    have hkept : s.preimages.get? hash ≠ none → s'.preimages.get? hash ≠ none := by
      rcases hpre with hsame | ⟨preimages, rfl⟩
      · rw [hsame]
        exact id
      · cases hstep
        exact hG hash
    refine h.other s.nextCall hkept (fun c _ => by rw [hcalls]) ?_
    intro preimage updated hheld
    exact absurd (hn.calls _ _ hheld) (Nat.lt_irrefl _)
  | begin => exact h.begin hn
  | resume hcall hresume => exact h.resume (hE _ _ hcall) hG hcall hresume
  | @serve call p p' e preimages hcall hserves =>
    have hother : ∀ preimage updated,
        s.calls.get? call ≠ some (.escrowDeleted hash preimage updated) := by
      rw [hcall]
      cases hserves <;> simp
    cases hserves with
    | read =>
      exact h.other call id (fun c hc => JsMap.get?_set_ne _ _ hc)
        fun _ _ hheld => absurd hheld (hother _ _)
    | delete hash' preimage updated =>
      by_cases hhash : hash = hash'
      · -- from here on the call holds the preimage
        subst hhash
        exact .inr (.inr ⟨call, preimage, updated, JsMap.get?_set_self _ _ _⟩)
      · refine h.other call (fun hin => ?_) (fun c hc => JsMap.get?_set_ne _ _ hc)
          fun _ _ hheld => absurd hheld (hother _ _)
        dsimp only
        rwa [JsMap.get?_delete_ne _ hhash]

/-- From any state of a run on, what was in the store stays retained. -/
theorem retained_of_run {s₀ : State} {tr' : List Event} (h₀ : s₀.calls = .empty)
    (h : Run (queryService deps) DeletionsResolve s₀ tr s)
    (h' : Run (queryService deps) DeletionsResolve s tr' s')
    (hin : s.preimages.get? hash ≠ none) : Retained (tr ++ tr') s' hash := by
  have hI : Numbered (tr ++ tr') s' ∧ AllExplained (ReleaseExplained deps) (tr ++ tr') s' ∧
      Retained (tr ++ tr') s' hash := by
    refine Run.invariant (I := fun evs t => Numbered (tr ++ evs) t ∧
      AllExplained (ReleaseExplained deps) (tr ++ evs) t ∧ Retained (tr ++ evs) t hash) ?_ ?_ h'
    · rw [List.append_nil]
      exact ⟨numbered_of_run h₀ h, ((explains_release deps).run h₀ h).2, .inl hin⟩
    · rintro evs t a t' evs' ⟨hn, hE, hR⟩ hG hstep
      rw [← List.append_assoc]
      exact ⟨hn.step hstep, ((explains_release deps).step hE hstep).2, hR.step hn hE hG hstep⟩
  exact hI.2.2

end

end Anchr.Requests
