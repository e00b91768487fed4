import Anchr.Oracle.History
import Anchr.Requests.Properties.Retention

/-!
# No preimage is lost

Two paths take a preimage out of the store: the Oracle service and `submitEscrowResult`.
-/

namespace Anchr.Oracle

open Infra Protocol Requests

variable {N : NostrTools} {cfg : Config N}

/-- A relay accepted a message that carries what stood under the hash. -/
def DeliveredOn (tr : List Event) (hash : String) : Prop :=
  ∃ call queryId providerPubkey preimage dm successes,
    Event.preimagePublished call queryId providerPubkey hash preimage dm ∈ tr ∧
    Event.attemptAnswered call dm successes ∈ tr ∧ successes ≠ []

section

variable {tr tr' : List Event} {s s' : CallState Tables Pending} {hash : String}

variable {evs : List Event} {call : Nat} {queryId : String} {asker : Asker} {t : Tables}
  {r : Request}

theorem DeliveredOn.mono (h : DeliveredOn tr hash) :
    DeliveredOn (tr ++ evs) hash := by
  obtain ⟨call, queryId, pk, preimage, dm, successes, hpub, hans, hne⟩ := h
  exact ⟨call, queryId, pk, preimage, dm, successes, List.mem_append_left _ hpub,
    List.mem_append_left _ hans, hne⟩

theorem deliveredOn_of_deleted {C : Caller → Prop} {P : String → String → Prop}
    (hJ : Justified (EventExplained cfg C P) tr) (hdel : .preimageDeleted call hash ∈ tr) :
    DeliveredOn tr hash := by
  obtain ⟨pre, post, rfl⟩ := List.append_of_mem hdel
  obtain ⟨queryId, pk, preimage, dm, successes, hpub, hans, hne⟩ := hJ pre _ post rfl
  exact ⟨call, queryId, pk, preimage, dm, successes, List.mem_append_left _ hpub,
    List.mem_append_left _ hans, hne⟩

/-- In the store or delivered; `Made` — there is something to keep. -/
def Kept (tr : List Event) (s : CallState Tables Pending) (hash : String) : Prop :=
  s.shared.preimages.get? hash ≠ none ∨ DeliveredOn tr hash

/-- The store has made an entry for the hash, and possibly the service has issued it. -/
def Made (tr : List Event) (s : CallState Tables Pending) (hash : String) : Prop :=
  ∃ queryId, Issued tr queryId hash ∨
    ∃ call asker, s.calls.get? call = some (.creating asker queryId hash)

def Known (cfg : Config N) (tr : List Event) (s : CallState Tables Pending) : Prop :=
  Justified (EventExplained cfg (fun _ => True) fun _ _ => True) tr ∧
    CallService.AllExplained (SharedExplained fun _ _ => True)
      (CallExplained cfg (fun _ => True) fun _ _ => True) tr s

theorem known_initial (cfg : Config N) (preimages : JsMap String String) :
    Known cfg [] (initialState preimages) := by
  refine ⟨Justified.nil _, ⟨by simp [initialState], by simp [initialState], fun _ _ _ => trivial⟩,
    fun call p hget => ?_⟩
  cases hget

theorem Known.step {evs : List Event} {a : CallAction Request (Answer × Moment)}
    (h : Known cfg tr s) (hstep : (oracleService cfg).machine.step s a = some (s', evs)) :
    Known cfg (tr ++ evs) s' := by
  have hE : (oracleService cfg).Explains (Request.Admitted fun _ => True)
      (SharedExplained fun _ _ => True) (CallExplained cfg (fun _ => True) fun _ _ => True)
      (EventExplained cfg (fun _ => True) fun _ _ => True) := explains fun _ => trivial
  obtain ⟨hevs, hall⟩ := hE.step (fun x _ => x.admitted_any) h.2 hstep
  exact ⟨h.1.append hevs, hall⟩

theorem Kept.step {evs : List Event} {a : CallAction Request (Answer × Moment)}
    (h : Kept tr s hash) (hk : Known cfg tr s)
    (hstep : (oracleService cfg).machine.step s a = some (s', evs)) : Kept (tr ++ evs) s' hash := by
  rcases h with hin | hdelivered
  · by_cases hgone : s'.shared.preimages.get? hash = none
    · -- the deletion is reported, and a reported deletion is a delivery
      have hJ := (hk.step hstep).1
      obtain ⟨call, o, turn, -, hspec, hshared, -, rfl⟩ := spec_step hstep
      obtain ⟨preimage, hsome⟩ := Option.ne_none_iff_exists'.mp hin
      rw [hshared] at hgone
      have hdel := hspec.deleted hsome hgone
      exact .inr (deliveredOn_of_deleted hJ (List.mem_append_right _ hdel))
    · exact .inl hgone
  · exact .inr hdelivered.mono

theorem Outcome.of_creating {o : Origin} {turn : Turn} (h : Outcome cfg t call o turn)
    (hpending : turn.pending = some (.creating asker queryId hash)) :
    turn.shared.preimages.get? hash ≠ none := by
  cases h with
  | creates =>
    cases hpending
    simp
  | undelivered _ hp => rcases hp with rfl | ⟨outcome, rfl⟩ <;> cases hpending
  | _ => cases hpending

theorem Made.of_step {a : CallAction Request (Answer × Moment)}
    (hstep : (oracleService cfg).machine.step s a = some (s', evs)) (h : Made (tr ++ evs) s' hash) :
    Made tr s hash ∨ s'.shared.preimages.get? hash ≠ none := by
  obtain ⟨queryId, ⟨c, hissued⟩ | ⟨c, asker, hcreating⟩⟩ := h
  · rcases List.mem_append.mp hissued with hold | hnew
    · exact .inl ⟨queryId, .inl ⟨c, hold⟩⟩
    · obtain ⟨call, o, turn, hstarts, hspec, -, -, rfl⟩ := spec_step hstep
      obtain ⟨-, -, -, asker, ho⟩ := hspec.events _ hnew
      cases hstarts with
      | begin r => cases ho
      | resume hcall =>
        injection ho with hp
        rw [hp] at hcall
        exact .inl ⟨queryId, .inr ⟨_, asker, hcall⟩⟩
  · obtain ⟨call, turn, htakes, hshared, hcalls, -⟩ := CallService.takes_of_step hstep
    rw [hcalls, JsMap.get?_place] at hcreating
    split at hcreating
    next =>
      rw [hshared]
      cases htakes with
      | begin r => exact .inr ((outcome_begin r).of_creating hcreating)
      | resume _ hresume => exact .inr ((outcome_resume hresume).of_creating hcreating)
    next => exact .inl ⟨queryId, .inr ⟨c, asker, hcreating⟩⟩

theorem kept_of_made {preimages : JsMap String String}
    (h : Run (oracleService cfg).machine AnyStep (initialState preimages) tr s) :
    Known cfg tr s ∧ ∀ hash, Made tr s hash → Kept tr s hash := by
  refine Run.invariant (I := fun tr s => Known cfg tr s ∧ ∀ hash, Made tr s hash → Kept tr s hash)
    ⟨known_initial cfg preimages, ?_⟩ ?_ h
  · rintro hash ⟨queryId, ⟨c, hissued⟩ | ⟨c, asker, hcreating⟩⟩
    · cases hissued
    · cases hcreating
  · rintro tr s a s' evs ⟨hk, hmade⟩ - hstep
    refine ⟨hk.step hstep, fun hash h => ?_⟩
    rcases Made.of_step hstep h with hold | hnew
    · exact (hmade hash hold).step hk hstep
    · exact .inl hnew

theorem kept_of_run (hk : Known cfg tr s) (hin : Kept tr s hash)
    (h : Run (oracleService cfg).machine AnyStep s tr' s') : Kept (tr ++ tr') s' hash := by
  have hI : Known cfg (tr ++ tr') s' ∧ Kept (tr ++ tr') s' hash := by
    refine Run.invariant (I := fun evs t => Known cfg (tr ++ evs) t ∧ Kept (tr ++ evs) t hash)
      ?_ ?_ h
    · rw [List.append_nil]
      exact ⟨hk, hin⟩
    · rintro evs t a t' evs' ⟨hk, hin⟩ - hstep
      rw [← List.append_assoc]
      exact ⟨hk.step hstep, hin.step hk hstep⟩
  exact hI.2

end

/--
Take any run of either service and any two states of it. What was in the preimage store at the
first, or was issued by then, is in the store at the second or has been handed over: by an accepted
message of the Oracle service, without any condition; by an outcome of `submitEscrowResult`, if no
deletion rejects after the store has carried it out and none is under way.
-/
theorem no_preimage_lost (cfg : Config N) (preimages : JsMap String String) (tr tr' : List Event)
    (s s' : CallState Tables Pending)
    (h : Run (oracleService cfg).machine AnyStep (initialState preimages) tr s)
    (h' : Run (oracleService cfg).machine AnyStep s tr' s')
    (deps : ServiceDeps) (q₀ q q' : Requests.State) (qtr qtr' : List Requests.Event)
    (hcalls : q₀.calls = .empty) (hq : Run (queryService deps) DeletionsResolve q₀ qtr q)
    (hq' : Run (queryService deps) DeletionsResolve q qtr' q') (hash : String) :
    (s.shared.preimages.get? hash ≠ none ∨ (∃ queryId, Issued tr queryId hash) →
      s'.shared.preimages.get? hash ≠ none ∨ DeliveredOn (tr ++ tr') hash) ∧
    (q.preimages.get? hash ≠ none → ¬ HeldByCall q' hash →
      q'.preimages.get? hash ≠ none ∨ HandedOver (qtr ++ qtr') hash) := by
  obtain ⟨hk, hmade⟩ := kept_of_made h
  refine ⟨fun hin => ?_, fun hin hheld => ?_⟩
  · rcases hin with hin | ⟨queryId, hissued⟩
    · exact kept_of_run hk (.inl hin) h'
    · exact kept_of_run hk (hmade hash ⟨queryId, .inl hissued⟩) h'
  · rcases retained_of_run hcalls hq hq' hin with hkept | hover | hcall
    · exact .inl hkept
    · exact .inr hover
    · exact absurd hcall hheld

def storedPreimage : JsMap String String := JsMap.empty.set "hash of s" "s"

/-- A release by the Oracle service, and one by `submitEscrowResult`. -/
theorem no_preimage_lost_released :
    (∃ tr s, Run (oracleService plainConfig).machine AnyStep (initialState storedPreimage) tr s ∧
      DeliveredOn tr "hash of s") ∧
    ∃ tr s, Run (queryService (.wired false true false)) DeletionsResolve processingHtlc tr s ∧
      HandedOver tr "h" := by
  have hexec : ((oracleService plainConfig).machine.exec (initialState storedPreimage)
      (hashActions 0 "s" ++ deliveryActions 1)).map
        (fun r => r.1.shared.preimages.get? "hash of s") = some none := by decide +kernel
  have hqexec : ((queryService (.wired false true false)).exec processingHtlc releaseActions).map
      (fun r => (r.1.preimages.get? "h", r.1.calls.entries.length)) = some (none, 0) := by
    decide
  obtain ⟨⟨s, tr⟩, hex, hgone⟩ := Option.map_eq_some_iff.mp hexec
  obtain ⟨⟨q, qtr⟩, hqex, hqgone⟩ := Option.map_eq_some_iff.mp hqexec
  obtain ⟨hqgone, hqcalls⟩ := Prod.mk.inj hqgone
  have hadmits : ∀ a ∈ releaseActions, ∀ s, DeletionsResolve s a := by
    simp [releaseActions, DeletionsResolve]
  have hrun := Run.of_exec _ .start (Machine.admits_anyStep _ _ _) hex
  have hqrun := Run.of_exec _ .start (Machine.admits_of_forall _ _ _ hadmits) hqex
  have hfree : ¬ HeldByCall q "h" := by
    rintro ⟨call, preimage, updated, hget⟩
    rw [JsMap.get?_eq_some, List.eq_nil_of_length_eq_zero hqcalls] at hget
    cases hget
  have hboth := no_preimage_lost plainConfig storedPreimage [] tr _ s .start hrun
    (.wired false true false) processingHtlc processingHtlc q [] qtr rfl .start hqrun
  rw [List.nil_append] at hrun hqrun
  refine ⟨⟨tr, s, hrun, ?_⟩, qtr, q, hqrun, ?_⟩
  · exact ((hboth "hash of s").1 (.inl (by decide))).resolve_left (fun h => h hgone)
  · exact ((hboth "h").2 (by decide) hfree).resolve_left (fun h => h hqgone)

/-- What is left in the store, and what was returned. -/
def preimageAfter (actions : List Action) : Option (Option String × List String) :=
  ((queryService (.wired false true false)).exec processingHtlc actions).map fun r =>
    (r.1.preimages.get? "h", returnedPreimages r.2)

/-- The store deletes the preimage, cannot write its file and rejects: the call rejects too, and
nobody has the preimage. -/
theorem deletion_rejects :
    processingHtlc.preimages.get? "h" = some "p" ∧
      preimageAfter (releaseActions.take 5) = some (none, []) ∧
      preimageAfter (releaseActions.take 5 ++ [.resume 0 .rejected (.ofInt 4)])
        = some (none, []) := by
  refine ⟨?_, ?_, ?_⟩ <;> decide

end Anchr.Oracle
