import Anchr.Oracle.Properties.Release
import Anchr.Oracle.Verdicts

/-!
# One verdict for each request

The service unwatches a request when a pass about it has ended with a verdict. Until then it takes
up every result event of the selected Provider, also while an earlier one is being verified or
delivered, and also after a release that no relay has accepted.
-/

namespace Anchr.Oracle

open Infra Protocol Requests

variable {N : NostrTools}

/--
In every run, from an unused service over any preimage store, where a pass about a query begins only
when no pass about it is under way and no verdict about it has been published: all messages about a
query carry the same verdict. They all release the same preimage or the same signatures, or they are
all rejections.
-/
theorem one_verdict (cfg : Config N) (preimages : JsMap String String) {tr : List Event}
    {s : CallState Tables Pending × List Event}
    (h : Run (oracleService cfg).machine.recorded
      (TakesUpFresh Pending.phase Event.verdict (TakesUp cfg)) (initialState preimages, []) tr s)
    {e e' : Event} (he : e ∈ tr) (he' : e' ∈ tr) {queryId : String} {v v' : Verdict}
    (hv : e.verdict = some (queryId, v)) (hv' : e'.verdict = some (queryId, v')) : v = v' :=
  (decides cfg).agree rfl h queryId v v' ⟨e, he, hv⟩ ⟨e', he', hv'⟩

/-! ## A request that is served -/

def watchingActions : List (CallAction Request (Answer × Moment)) :=
  hashActions 0 "s" ++
    [.begin (.watchRequest plainQuery "e" "customer"), .begin (.recordSelectedProvider "q" "pk")]

def resultEvent : CallAction Request (Answer × Moment) :=
  .begin (.responseEvent "q" plainResult plainMoment)

/-- The result is verified; a relay accepts the second attempt to release the preimage. -/
def servingActions : List (CallAction Request (Answer × Moment)) :=
  [resultEvent, .resume 3 (.verified passedDetail, plainMoment),
    .resume 3 (.resolved, plainMoment), .resume 3 (.published [], plainMoment),
    .resume 3 (.resolved, plainMoment), .resume 3 (.published ["relay"], plainMoment),
    .resume 3 (.resolved, plainMoment), .resume 3 (.resolved, plainMoment)]

/-- A result is taken up only when none is. -/
abbrev OneAtATime : CallState Tables Pending × List Event → CallAction Request (Answer × Moment) →
    Prop :=
  TakesUpFresh Pending.phase Event.verdict (TakesUp plainConfig)

theorem admits_serving :
    (oracleService plainConfig).machine.recorded.Admits OneAtATime (initialState .empty, [])
      ((watchingActions ++ servingActions) ++ [resultEvent]) := by
  have hwatching : ((oracleService plainConfig).machine.recorded.exec (initialState .empty, [])
      watchingActions).map (fun r => (r.1.1.calls.entries.length,
        (r.1.2.filterMap Event.verdict).length)) = some (0, 0) := by decide
  have hserved : ((oracleService plainConfig).machine.recorded.exec (initialState .empty, [])
      (watchingActions ++ servingActions)).map (fun r => (r.1.1.shared.watched.get? "q").isNone)
        = some true := by decide +kernel
  refine Machine.Admits.append (Machine.Admits.append ?_ ?_) ?_
  · refine Machine.admits_of_forall _ _ _ ?_
    simp [watchingActions, hashActions, TakesUpFresh, TakesUp]
  · intro r hr
    rw [hr, Option.map_some, Option.some.injEq, Prod.mk.injEq] at hwatching
    refine ⟨fun topic _ => freshTopic_of_quiet (List.length_eq_zero_iff.mp hwatching.1)
      (List.length_eq_zero_iff.mp hwatching.2) topic, fun r' _ => ?_⟩
    exact Machine.admits_of_forall _ _ _ (by simp [TakesUpFresh])
  · intro r hr
    rw [hr, Option.map_some, Option.some.injEq, Option.isNone_iff_eq_none] at hserved
    refine ⟨?_, fun _ _ => trivial⟩
    rintro topic ⟨-, entry, payload, hentry, -⟩
    rw [hserved] at hentry
    cases hentry

/-- Both attempts release the same preimage, and the second delivery of the event adds no
verdict. -/
theorem one_verdict_redelivered :
    ∃ tr s, Run (oracleService plainConfig).machine.recorded OneAtATime (initialState .empty, [])
        tr s ∧
      tr.filterMap Event.verdict = [("q", .preimage "s"), ("q", .preimage "s")] ∧
      ∀ e ∈ tr, ∀ v, e.verdict = some ("q", v) → v = .preimage "s" := by
  have hexec : ((oracleService plainConfig).machine.recorded.exec (initialState .empty, [])
      ((watchingActions ++ servingActions) ++ [resultEvent])).map
        (fun r => r.2.filterMap Event.verdict)
      = some [("q", .preimage "s"), ("q", .preimage "s")] := by decide +kernel
  obtain ⟨tr, s, hrun, hverdicts⟩ := Run.exists_of_exec admits_serving hexec
  have hmem : ("q", Verdict.preimage "s") ∈ tr.filterMap Event.verdict := by
    rw [hverdicts]
    exact List.mem_cons_self
  obtain ⟨e', he', hv'⟩ := List.mem_filterMap.mp hmem
  exact ⟨tr, s, hrun, hverdicts, fun e he v hv => one_verdict plainConfig .empty hrun he he' hv hv'⟩

/-- The result event comes twice, and the second time while the first is being verified. Both
verifications pass. -/
def redeliveredActions : List (CallAction Request (Answer × Moment)) :=
  [resultEvent, resultEvent, .resume 3 (.verified passedDetail, plainMoment),
    .resume 3 (.resolved, plainMoment), .resume 3 (.published ["relay"], plainMoment),
    .resume 4 (.verified passedDetail, plainMoment), .resume 4 (.resolved, plainMoment)]

/-- The first pass releases the preimage and deletes it; the second finds none and rejects. -/
theorem released_and_rejected :
    ∃ tr s, Run (oracleService plainConfig).machine RelayDriven (initialState .empty) tr s ∧
      tr.filterMap Event.verdict = [("q", .preimage "s"), ("q", .rejection)] := by
  have hexec : ((oracleService plainConfig).machine.exec (initialState .empty)
      (watchingActions ++ redeliveredActions)).map (fun r => r.2.filterMap Event.verdict)
      = some [("q", .preimage "s"), ("q", .rejection)] := by decide +kernel
  refine Run.exists_of_exec (Machine.admits_of_forall _ _ _ ?_) hexec
  simp [watchingActions, hashActions, redeliveredActions, resultEvent, RelayDriven]

end Anchr.Oracle
