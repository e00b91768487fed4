import Anchr.Infra.Decisions
import Anchr.Oracle.History

/-!
# The verdicts of the Oracle service

The Provider learns of a verdict by a direct message.
-/

namespace Anchr.Oracle

open Infra Protocol Requests

/-- The material of a release, or a rejection. -/
inductive Verdict where
  | preimage (preimage : String)
  | signatures (signatures : List String)
  | rejection
deriving DecidableEq

/-- The query id and the verdict of a direct message to the Provider. -/
def Event.verdict : Event → Option (String × Verdict)
  | .preimagePublished _ queryId _ _ preimage _ => some (queryId, .preimage preimage)
  | .signaturePublished _ queryId _ signatures _ => some (queryId, .signatures signatures)
  | .rejectionPublished _ queryId _ _ _ => some (queryId, .rejection)
  | _ => none

/-- The query id of a pass, and what it may still publish. -/
def Pending.phase : Pending → Option (String × Phase Verdict)
  | .creating .. | .issuing .. => none
  | .verifying d | .reading d _ _ _ | .verifyingFrost d _ | .signing d _ _ _ =>
    some (d.queryId, .undecided)
  | .delivering d _ preimage _ _ | .retrying d _ preimage _ _ =>
    some (d.queryId, .decided (.preimage preimage))
  | .deleting d _ | .deliveringFrost d | .rejecting d | .settling d _ => some (d.queryId, .closed)

section

variable {N : NostrTools} (cfg : Config N)

/-- The request makes the service begin a pass about the query. -/
def TakesUp (t : Tables) : Request → String → Prop
  | .responseEvent queryId event _, q =>
    queryId = q ∧ ∃ entry payload, t.watched.get? queryId = some entry ∧
      Accepts cfg entry event payload ∧ event.pubkey ≠ ""
  | .verifyAndDeliver queryId _ _ _ _, q | .verifyAndDeliverWithFrost queryId _ _ _ _, q =>
    queryId = q
  | _, _ => False

abbrev Turn.Moves (queryId : String) (ph : Phase Verdict) (turn : Turn) : Prop :=
  CallTurn.Moves Pending.phase Event.verdict queryId ph turn

abbrev Turn.Silent (turn : Turn) : Prop := CallTurn.Silent Pending.phase Event.verdict turn

variable {cfg} {t : Tables} {call : Nat} {o : Origin} {d : Delivery} {events : List Event}
  {turn : Turn} {p : Pending} {queryId : String} {ph : Phase Verdict}

theorem Opens.takesUp {r : Request} (h : Opens cfg t call (.begin r) d events) :
    TakesUp cfg t r d.queryId := by
  cases h with
  | result hentry haccepts hpubkey => exact ⟨rfl, _, _, hentry, haccepts, hpubkey⟩
  | direct hr => rcases hr with rfl | rfl <;> rfl

theorem Opens.undecided {answer : Answer} (h : Opens cfg t call (.resume p answer) d events) :
    p.phase = some (d.queryId, .undecided) := by
  cases h with
  | verified _ hp => rcases hp with rfl | ⟨groupPubkey, rfl⟩ <;> rfl
  | _ => rfl

theorem Opens.verdict (h : Opens cfg t call o d events) : events.filterMap Event.verdict = [] := by
  cases h <;> rfl

/-! ## Turns of a pass -/

theorem moves_throwing (hev : events.filterMap Event.verdict = []) :
    Turn.Moves queryId ph (throwing t events) :=
  ⟨[], none, .ended ph, hev, rfl⟩

theorem moves_waiting (hev : events.filterMap Event.verdict = [])
    (hp : p.phase = some (queryId, ph)) :
    Turn.Moves queryId ph { shared := t, events := events, pending := some p } :=
  ⟨[], some ph, .wait ph, hev, hp⟩

theorem moves_first {e : Event} {v : Verdict} {next : Phase Verdict}
    (hev : events.filterMap Event.verdict = []) (he : e.verdict = some (queryId, v))
    (hp : p.phase = some (queryId, next)) (hnext : next = .decided v ∨ next = .closed) :
    Turn.Moves queryId .undecided
      { shared := t, events := events ++ [e], pending := some p } := by
  refine ⟨[v], some next, .first hnext, ?_, hp⟩
  rw [List.filterMap_append, hev, List.nil_append, List.filterMap_cons_some he]
  rfl

variable (cfg t turn) in
/-- The turn is one of a pass about a query, or publishes no verdict. -/
inductive PassTurn : Origin → Prop
  | begins {r : Request} {queryId : String} (htakes : TakesUp cfg t r queryId)
      (hmoves : Turn.Moves queryId .undecided turn) : PassTurn (.begin r)
  | apart {r : Request} (hsilent : Turn.Silent turn) : PassTurn (.begin r)
  | goesOn {p : Pending} {answer : Answer} {queryId : String} {ph : Phase Verdict}
      (hp : p.phase = some (queryId, ph)) (hmoves : Turn.Moves queryId ph turn) :
      PassTurn (.resume p answer)
  | aside {p : Pending} {answer : Answer} (hp : p.phase = none) (hsilent : Turn.Silent turn) :
      PassTurn (.resume p answer)

theorem Opens.passTurn (h : Opens cfg t call o d events)
    (hmoves : Turn.Moves d.queryId .undecided turn) : PassTurn cfg t turn o := by
  cases o with
  | begin r => exact .begins h.takesUp hmoves
  | resume p answer => exact .goesOn h.undecided hmoves

theorem Outcome.passTurn (h : Outcome cfg t call o turn) : PassTurn cfg t turn o := by
  cases h with
  | silent =>
    cases o with
    | begin r => exact .apart ⟨rfl, rfl⟩
    | resume p answer =>
      match hp : p.phase with
      | none => exact .aside hp ⟨rfl, rfl⟩
      | some (queryId, ph) => exact .goesOn hp (moves_throwing rfl)
  | found | creates => exact .apart ⟨rfl, rfl⟩
  | repeated _ x | watches _ x => cases x <;> exact .apart ⟨rfl, rfl⟩
  | created | returned => exact .aside rfl ⟨rfl, rfl⟩
  | responded _ _ _ dm => cases dm <;> exact .aside rfl ⟨rfl, rfl⟩
  | throws h => exact h.passTurn (moves_throwing h.verdict)
  | rejects h | signed h => exact h.passTurn (moves_first h.verdict rfl rfl (.inr rfl))
  | verifies h | verifiesFrost h | signs h => exact h.passTurn (moves_waiting h.verdict rfl)
  | reads => exact .goesOn rfl (moves_waiting rfl rfl)
  | attempts => exact .goesOn rfl ⟨[_], some (.decided _), .first (.inl rfl), rfl, rfl⟩
  | retries => exact .goesOn rfl ⟨_, _, .again _, rfl, rfl⟩
  | delivered => exact .goesOn rfl ⟨[], some .closed, .close _, rfl, rfl⟩
  | undelivered _ hp =>
    rcases hp with rfl | ⟨outcome, rfl⟩
    · exact .goesOn rfl (moves_waiting rfl rfl)
    · exact .goesOn rfl ⟨[], some .closed, .close _, rfl, rfl⟩
  | deleted => exact .goesOn rfl (moves_waiting rfl rfl)
  | published hp => rcases hp with rfl | rfl <;> exact .goesOn rfl (moves_waiting rfl rfl)
  | settled => exact .goesOn rfl ⟨_, _, .ended _, rfl, rfl⟩

/-- Every turn of the service is a turn of such a pass, or publishes no verdict. -/
theorem decides (cfg : Config N) :
    (oracleService cfg).Decides Pending.phase Event.verdict (TakesUp cfg) where
  begin _ _ r := by
    cases (outcome_begin r).passTurn with
    | begins htakes hmoves => exact .inl ⟨_, htakes, hmoves⟩
    | apart hsilent => exact .inr hsilent
  pass hresume hp := by
    cases (outcome_resume hresume).passTurn with
    | goesOn hp' hmoves =>
      cases hp.symm.trans hp'
      exact hmoves
    | aside hnone => cases hp.symm.trans hnone
  silent hresume hp := by
    cases (outcome_resume hresume).passTurn with
    | goesOn hp' => cases hp.symm.trans hp'
    | aside _ hsilent => exact hsilent

end

end Anchr.Oracle
