import Anchr.Requests.Properties.Quorum

/-!
# Which Oracle decides

A Provider may name the Oracle that is to verify its result. Only the Customer's list of Oracles
says which names count.
-/

namespace Anchr.Requests

open Infra

variable {P : Platform} {registry : OracleRegistry} {query : Query}

/-! ## Without a list -/

/-- Without a list, the Provider's id is not looked at. -/
theorem verifyWithQuorum_unrestricted (P : Platform) (registry : Option OracleRegistry)
    (h : OracleRegistry.restricts query.oracleIds = false) (oracleId : Option String) :
    verifyWithQuorum P registry query oracleId = verifyWithQuorum P registry query none := by
  simp only [verifyWithQuorum, h, Bool.false_eq_true, if_false]

/-! ## With a list -/

namespace OracleRegistry

variable {ids : Option (List String)}

theorem get?_of_resolve {oracleId : Option String} {o : Oracle}
    (h : registry.resolve oracleId ids = some o) :
    registry.oracles.get? o.id = some o ∧ (restricts ids = true → o.id ∈ ids.getD []) := by
  unfold resolve at h
  split at h
  next id hid =>
    split at h
    next => cases h
    next hlisted =>
      have hkey := registry.keyed id o h
      rw [hkey]
      refine ⟨h, fun hr => ?_⟩
      rw [hr, Bool.true_and, Bool.not_eq_true, Bool.not_eq_false'] at hlisted
      exact List.contains_iff_mem.mp hlisted
  split at h
  next id =>
    have hkey := registry.keyed id o h
    rw [hkey]
    exact ⟨h, fun _ => List.mem_singleton_self id⟩
  next => cases h

theorem resolve_unlisted {id : String} (hne : id ≠ "") (hr : restricts ids = true)
    (hid : id ∉ ids.getD []) :
    registry.resolve (some id) ids = none := by
  simp [resolve, Option.filter, hne, hr, hid]

end OracleRegistry

/-- With one, only listed Oracles are asked. -/
theorem asked_listed {oracleId : Option String} {o : Oracle}
    (h : o ∈ (verifyWithQuorum P (some registry) query oracleId).asked) :
    registry.oracles.get? o.id = some o ∧
      (OracleRegistry.restricts query.oracleIds = true → o.id ∈ query.oracleIds.getD []) := by
  unfold verifyWithQuorum at h
  dsimp only at h
  split at h
  next =>
    unfold verifySingleOracle at h
    split at h
    next o' hresolve =>
      obtain rfl := List.mem_singleton.mp h
      exact OracleRegistry.get?_of_resolve hresolve
    next => cases h
  next quorum _ =>
    unfold verifyQuorum at h
    dsimp only at h
    split at h
    next => cases h
    next => exact OracleRegistry.get?_of_mem_resolveMultiple h

/-- One Oracle is to decide, and the name is not on the list: no Oracle is asked. -/
theorem verifyWithQuorum_unlisted (hq : query.quorum = none) {id : String} (hne : id ≠ "")
    (hr : OracleRegistry.restricts query.oracleIds = true) (hid : id ∉ query.oracleIds.getD []) :
    verifyWithQuorum P (some registry) query (some id) = .settled (unavailable
      ("Oracle \"" ++ id ++ "\" is not available or not accepted for this query")) := by
  have hresolve : registry.resolve (some id) query.oracleIds = none :=
    OracleRegistry.resolve_unlisted hne hr hid
  simp [verifyWithQuorum, hq, hr, verifySingleOracle, hresolve, Option.filter, hne]

theorem verifyWithQuorum_empty_id (P : Platform) (registry : OracleRegistry) (query : Query) :
    verifyWithQuorum P (some registry) query (some "") =
      verifyWithQuorum P (some registry) query none := by
  by_cases hr : OracleRegistry.restricts query.oracleIds = true
  · simp only [verifyWithQuorum, hr, if_true]
    rfl
  · exact verifyWithQuorum_unrestricted P _ (Bool.not_eq_true _ ▸ hr) _

/--
For every registry, query and ids that a Provider may supply. Without a list of Oracles, all ids
lead to the same verification: the same Oracles are asked, and the same answers give the same
result. With a list, all Oracles that are asked are registered under a listed id, by one Oracle as
by a quorum; and where one Oracle decides, a name that is not on the list never leads to a pass,
whatever anyone answers. The empty id does what no id does.
-/
theorem provider_cannot_choose (P : Platform) (registry : OracleRegistry) (query : Query) :
    (OracleRegistry.restricts query.oracleIds = false → ∀ oracleId oracleId',
      verifyWithQuorum P (some registry) query oracleId =
        verifyWithQuorum P (some registry) query oracleId') ∧
    (OracleRegistry.restricts query.oracleIds = true →
      (∀ oracleId, ∀ o ∈ (verifyWithQuorum P (some registry) query oracleId).asked,
        registry.oracles.get? o.id = some o ∧ o.id ∈ query.oracleIds.getD []) ∧
      (query.quorum = none → ∀ id, id ≠ "" → id ∉ query.oracleIds.getD [] → ∀ atts result,
        (verifyWithQuorum P (some registry) query (some id)).reply atts = some result →
          result.passed = false)) ∧
    verifyWithQuorum P (some registry) query (some "") =
      verifyWithQuorum P (some registry) query none := by
  refine ⟨fun hr oracleId oracleId' => ?_, fun hr => ⟨fun oracleId o ho => ?_, ?_⟩,
    verifyWithQuorum_empty_id P registry query⟩
  · rw [verifyWithQuorum_unrestricted P _ hr oracleId, verifyWithQuorum_unrestricted P _ hr oracleId']
  · obtain ⟨hget, hlisted⟩ := asked_listed ho
    exact ⟨hget, hlisted hr⟩
  · intro hq id hne hid atts result hreply
    rw [verifyWithQuorum_unlisted hq hne hr hid] at hreply
    unfold QuorumRequest.reply at hreply
    split at hreply
    next => cases hreply
    cases hreply
    rfl

/-- A query for one Oracle. -/
def singleQuery (oracleIds : List String) : Query :=
  { quorumQuery oracleIds 0 with quorum := none }

/-- The Provider names `b`, which is registered but not listed. -/
theorem provider_cannot_choose_unlisted :
    ∀ result, (verifyWithQuorum .integers
        (some ((OracleRegistry.empty.register ⟨"a"⟩).register ⟨"b"⟩)) (singleQuery ["a"])
        (some "b")).reply [] = some result → result.passed = false :=
  fun result h => ((provider_cannot_choose .integers _ (singleQuery ["a"])).2.1 rfl).2 rfl "b"
    (by decide) (by decide) [] result h

/-- The empty id is not on the list, and the only listed Oracle is asked. -/
theorem passed_with_empty_id :
    "" ∉ (singleQuery ["a"]).oracleIds.getD [] ∧
      ((verifyWithQuorum .integers (some (OracleRegistry.empty.register ⟨"a"⟩)) (singleQuery ["a"])
        (some "")).reply [Oracle.verdict ⟨"a"⟩ "q" true]).map (·.passed) = some true :=
  ⟨by decide, rfl⟩

end Anchr.Requests
