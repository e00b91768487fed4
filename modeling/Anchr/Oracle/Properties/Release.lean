import Anchr.Oracle.History

/-!
# A preimage goes only to the selected Provider, after a passing verification

A preimage leaves the store only after a relay has accepted the message that carries it.
-/

namespace Anchr.Oracle

open Infra Protocol Requests

variable {N : NostrTools} (cfg : Config N)

/-! ## Statement -/

/-- The direct verify-and-deliver methods are not used. -/
def RelayDriven (_ : CallState Tables Pending) : CallAction Request (Answer × Moment) → Prop
  | .begin (.verifyAndDeliver ..) | .begin (.verifyAndDeliverWithFrost ..) => False
  | _ => True

/-- What must have happened before an event. -/
def ReleaseJustified (tr : List Event) : Event → Prop
  | .preimagePublished call queryId providerPubkey hash preimage dm =>
    ∃ entry event payload,
      -- the result event, from the Provider selected when it arrived
      Event.resultAccepted call queryId entry event payload ∈ tr ∧
      Accepts cfg entry event payload ∧ event.pubkey = providerPubkey ∧
      entry.query.quorum = none ∧
      -- the verification of exactly that result
      Event.verified call entry.query
        (oracleResponseToResult cfg.resolveSchemaEvidence entry.query payload) true ∈ tr ∧
      -- the preimage under a hash issued for the query id
      Issued tr queryId hash ∧ Event.preimageRead call hash (some preimage) ∈ tr ∧
      -- in a message to that Provider
      dm.tags = [["p", providerPubkey]] ∧
      ∃ m, buildPreimageDM N cfg.text cfg.identity providerPubkey queryId preimage m = some dm
  | .preimageDeleted call hash =>
    ∃ queryId providerPubkey preimage dm successes,
      Event.preimagePublished call queryId providerPubkey hash preimage dm ∈ tr ∧
      Event.attemptAnswered call dm successes ∈ tr ∧ successes ≠ []
  | _ => True

/-- The events of a step tell the truth, and a preimage does not leave the store without an
event. -/
def StepTells (s : CallState Tables Pending) (a : CallAction Request (Answer × Moment))
    (s' : CallState Tables Pending) (evs : List Event) : Prop :=
  ∃ call o, StartsAt s a call o ∧ (∀ e ∈ evs, e.Tells s.shared call o s'.shared) ∧
    ∀ hash preimage, s.shared.preimages.get? hash = some preimage →
      s'.shared.preimages.get? hash = none → Event.preimageDeleted call hash ∈ evs

/-! ## Runs -/

theorem tags_buildPreimageDM {identity : Keypair N} {T : NumberText}
    {providerPubkey queryId preimage : String} {m : Moment} {dm : Protocol.Event}
    (h : buildPreimageDM N T identity providerPubkey queryId preimage m = some dm) :
    dm.tags = [["p", providerPubkey]] := by
  obtain ⟨_, _, rfl⟩ := Option.map_eq_some_iff.mp h
  rfl

variable {cfg} in
theorem releaseJustified_of_explained {tr : List Event} {e : Event}
    (h : EventExplained cfg (· = .handleResponseEvent) (fun _ _ => True) tr e) :
    ReleaseJustified cfg tr e := by
  cases e with
  | preimagePublished call queryId providerPubkey hash preimage dm =>
    obtain ⟨d, rfl, rfl, hrel⟩ := h
    obtain ⟨entry, event, payload, hmem, haccepts, hquery, hresult, hpubkey⟩ :=
      hrel.origin.accepted hrel.origin.caller
    obtain ⟨m, hm⟩ := hrel.built
    have hverified := hrel.verified
    rw [hresult, hquery] at hverified
    exact ⟨entry, event, payload, hmem, haccepts, hpubkey.symm, hquery ▸ hrel.quorum, hverified,
      hrel.issued, hrel.read, tags_buildPreimageDM hm, m, hm⟩
  | preimageDeleted => exact h
  | _ => trivial

/--
In every run driven by relay events, hash requests, `watchRequest` and `recordSelectedProvider`,
from an unused service over any preimage store: every published preimage and every deletion is
justified by what happened before, and the events of every further step are true of the state.
-/
theorem release_after_verification_on_relay (preimages : JsMap String String) {tr : List Event}
    {s : CallState Tables Pending}
    (hrun : Run (oracleService cfg).machine RelayDriven (initialState preimages) tr s) :
    Justified (ReleaseJustified cfg) tr ∧
      ∀ a s' evs, (oracleService cfg).machine.step s a = some (s', evs) →
        StepTells s a s' evs := by
  have hadmitted : ∀ s x, RelayDriven s (.begin x) → x.Admitted (· = .handleResponseEvent) := by
    intro s x h
    cases x with
    | verifyAndDeliver => exact h.elim
    | verifyAndDeliverWithFrost => exact h.elim
    | responseEvent => exact rfl
    | _ => trivial
  have hJ : Justified (EventExplained cfg (· = .handleResponseEvent) fun _ _ => True) tr :=
    explained_of_run (fun _ => trivial) (fun _ _ _ => trivial) hadmitted hrun
  refine ⟨fun pre e post heq => releaseJustified_of_explained (hJ pre e post heq), ?_⟩
  intro a s' evs hstep
  obtain ⟨call, o, turn, hstarts, hspec, hshared, -, rfl⟩ := spec_step hstep
  rw [StepTells, hshared]
  exact ⟨call, o, hstarts, hspec.events, fun _ _ => hspec.deleted⟩

/-- A request is given a hash, watched and served: its preimage reaches the selected Provider. -/
theorem release_on_relay_delivered :
    ∃ tr s, Run (oracleService plainConfig).machine RelayDriven (initialState .empty) tr s ∧
      ∃ pre call hash dm post,
        tr = pre ++ .preimagePublished call "q" "pk" hash "s" dm :: post ∧
        ReleaseJustified plainConfig pre (.preimagePublished call "q" "pk" hash "s" dm) := by
  obtain ⟨tr, s, call, hash, dm, hrun, hmem⟩ := exists_release (G := RelayDriven)
    (by simp [hashActions, deliveryActions, RelayDriven])
  obtain ⟨pre, post, hsplit⟩ := List.append_of_mem hmem
  exact ⟨tr, s, hrun, pre, call, hash, dm, post, hsplit,
    (release_after_verification_on_relay plainConfig .empty hrun).1 pre _ post hsplit⟩

end Anchr.Oracle
