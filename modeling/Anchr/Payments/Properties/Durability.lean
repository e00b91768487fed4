import Anchr.Payments.PreimageFile

/-!
# Durability of the persistent preimage store

`create` and `delete` change the entries first and then wait for a replacement of the whole file
that nobody orders.
-/

namespace Anchr.Payments

open Infra WriteBehind

variable {T : NumberText} {sha256 : List UInt8 → List UInt8}

/-- What holds in every orderly run of a store that was loaded from its file. -/
theorem preimage_file_durable {store : TimedStore T sha256} {file temp : Option String}
    (hload : loadFromPersistence T file = some store.entries) {tr : List Empty}
    {s : WriteBehind (TimedStore T sha256) (StoreOp T) String}
    (hrun : Run (preimageFile T sha256) (Orderly TimedStore.apply) (opened store file temp) tr s) :
    (s.Settled → s.NoneFailed → loadFromPersistence T s.file = some s.memory.entries) ∧
      s.memory = replay TimedStore.apply store s.calls := by
  have hstate := OrderlyState.run hrun
  refine ⟨fun hsettled hnone => ?_, hstate.memory_eq⟩
  rcases hstate.file_of_settled hsettled hnone with ⟨hmemory, hfile⟩ | hfile
  · rw [hfile, hmemory]
    exact hload
  · rw [hfile]
    exact load_fileText s.memory.timed

/-! ## Two preimages -/

def firstText : String := "jklmnojklmnojklmnojklmnojklmnojk"

def secondText : String := "zyxwvutsrqponmlkjihgfedcba987654"

/-- The digests of the two. -/
def twoDigests : List UInt8 → List UInt8 :=
  digestTable [(firstText, "e72868c135c4c3a0151abedb5fbe1f5fa7138bf0612b9a18028bb0373cce8291"),
    (secondText, "8abe8977a3a55d6e72fb7ce34736b523c1f550565215f7b21b44b88caa90069e")]

def startOfTime : Instant .safeIntegers := ⟨.fin 0, rfl, by decide⟩

def createFirst : StoreOp .safeIntegers :=
  .create ⟨(utf8 firstText).toArray, by decide⟩ startOfTime

def createSecond : StoreOp .safeIntegers :=
  .create ⟨(utf8 secondText).toArray, by decide⟩ startOfTime

/-- Nothing is stored. -/
def noPreimages : TimedStore .safeIntegers twoDigests := ⟨.empty, by simp [Timed, PreimageStore.empty]⟩

/-- Both are stored, the replacements keep their order, and then deleting a third fails. -/
theorem preimage_file_durable_two :
    (∃ s, Run (preimageFile .safeIntegers twoDigests) (Orderly TimedStore.apply)
        (opened noPreimages none none) [] s ∧
      s.memory = (noPreimages.apply createFirst).apply createSecond ∧
      loadFromPersistence .safeIntegers s.file = some s.memory.entries) ∧
    ∃ s, Run (preimageFile .safeIntegers twoDigests) (Orderly TimedStore.apply)
        (opened noPreimages none none) [] s ∧
      s.calls.map WriteCall.stage = [.resolved, .rejected] ∧
      s.memory = noPreimages.apply createFirst := by
  constructor
  · have hrun := Run.of_exec (G := Orderly TimedStore.apply) [.call createFirst, .call createSecond,
        .written 0, .renamed 0, .written 1, .renamed 1] .start (by decide)
      (show (preimageFile .safeIntegers twoDigests).exec (opened noPreimages none none) _ = _ from rfl)
    have hdurable := (preimage_file_durable rfl hrun).1 (by unfold Settled; decide)
      (by unfold NoneFailed; decide)
    exact ⟨_, hrun, rfl, hdurable⟩
  · have hrun := Run.of_exec (G := Orderly TimedStore.apply) [.call createFirst, .written 0,
        .renamed 0, .call (.delete "third"), .writeFailed 1 none] .start (by decide +kernel)
      (show (preimageFile .safeIntegers twoDigests).exec (opened noPreimages none none) _ = _ from rfl)
    exact ⟨_, hrun, rfl, (preimage_file_durable rfl hrun).2⟩

/-- The replacement of the first of two calls comes last; and a `create` fails. -/
theorem preimage_file_not_durable :
    (∃ s, Run (preimageFile .safeIntegers twoDigests) AnyStep (opened noPreimages none none) [] s ∧
      s.Settled ∧ s.NoneFailed ∧
      loadFromPersistence .safeIntegers s.file ≠ some s.memory.entries) ∧
    ∃ s, Run (preimageFile .safeIntegers twoDigests) AnyStep (opened noPreimages none none) [] s ∧
      s.Settled ∧ s.memory ≠ replay TimedStore.apply noPreimages s.calls := by
  constructor
  · have hrun := Run.of_exec (G := AnyStep) [.call createFirst, .call createSecond, .written 1,
        .renamed 1, .written 0, .renamed 0] .start (Machine.admits_anyStep _ _ _)
      (show (preimageFile .safeIntegers twoDigests).exec (opened noPreimages none none) _ = _ from rfl)
    refine ⟨_, hrun, by unfold Settled; decide, by unfold NoneFailed; decide, ?_⟩
    have hload := load_fileText (noPreimages.apply createFirst).timed
    show loadFromPersistence _ (some (fileText _ (noPreimages.apply createFirst).entries)) ≠
      some ((noPreimages.apply createFirst).apply createSecond).entries
    rw [hload]
    intro h
    have hentries := congrArg JsMap.entries (Option.some.inj h)
    exact absurd hentries (by decide +kernel)
  · have hrun := Run.of_exec (G := AnyStep) [.call createFirst, .writeFailed 0 none] .start
      (Machine.admits_anyStep _ _ _)
      (show (preimageFile .safeIntegers twoDigests).exec (opened noPreimages none none) _ = _ from rfl)
    refine ⟨_, hrun, by unfold Settled; decide, ?_⟩
    show noPreimages.apply createFirst ≠ noPreimages
    decide

end Anchr.Payments
