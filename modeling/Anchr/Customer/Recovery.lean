import Anchr.Infra.JsMap
import Anchr.Infra.JsValue

/-!
# Recovery material on errors

`attachPaymentRecoveryMaterial` of `packages/sdk/src/customer.ts`.
-/

namespace Anchr.Customer

open Infra

abbrev CashuProof := JsValue

structure CashuToken where
  token : String
  amountSats : JsNumber
  proofs : List CashuProof
  changeProofs : Option (List CashuProof) := none

/-- `boundLock.changeProofs ?? []`. -/
def CashuToken.paymentChangeProofs (lock : CashuToken) : List CashuProof :=
  lock.changeProofs.getD []

/-! ## Error objects -/

/-- The values that recovery material has. -/
inductive PropertyValue where
  | proofs (proofs : List CashuProof)
  | token (token : String)
  | secretKey (key : String)
  /-- Something the code has not put there. -/
  | foreign

/-- A property that is not configurable cannot be defined again. -/
structure OwnProperty where
  value : PropertyValue
  configurable : Bool := true

/-- An object that is an instance of `Error`. A frozen one is not extensible, and its properties
are not configurable. -/
structure ErrorObject where
  name : String
  message : String
  extensible : Bool := true
  properties : JsMap String OwnProperty := .empty

/-- What has been thrown may be any value. -/
inductive Thrown where
  | error (error : ErrorObject)
  /-- Any other value, with what `String(value)` gives; `none` when that throws. -/
  | other (text : Option String)

def typeError (message : String) : ErrorObject := { name := "TypeError", message := message }

/-- `Object.defineProperty(error, name, { value, enumerable: true, configurable: true })`. -/
def ErrorObject.defineProperty (error : ErrorObject) (name : String) (value : PropertyValue) :
    Except ErrorObject ErrorObject :=
  match error.properties.get? name with
  | some property =>
    if property.configurable then
      .ok { error with properties := error.properties.set name { value := value } }
    else .error (typeError ("Cannot redefine property: " ++ name))
  | none =>
    if error.extensible then
      .ok { error with properties := error.properties.set name { value := value } }
    else .error (typeError ("Cannot define property " ++ name ++ ", object is not extensible"))

/-- `err instanceof Error ? err : new Error(String(err))`. -/
def toError : Thrown → Except ErrorObject ErrorObject
  | .error error => .ok error
  | .other (some text) => .ok { name := "Error", message := text }
  | .other none => .error (typeError "Cannot convert object to primitive value")

/-- The properties, in the order they are defined in. The key is copied. -/
def recoveryMaterial (lock : CashuToken) (refundSecretKey : String) :
    List (String × PropertyValue) :=
  (if lock.paymentChangeProofs.isEmpty then []
    else [("paymentChangeProofs", .proofs lock.paymentChangeProofs)]) ++
  [("paymentLockProofs", .proofs lock.proofs), ("paymentLockToken", .token lock.token),
    ("paymentLockRefundSecretKey", .secretKey refundSecretKey)]

def defineAll : ErrorObject → List (String × PropertyValue) → Except ErrorObject ErrorObject
  | error, [] => .ok error
  | error, (name, value) :: rest =>
    match error.defineProperty name value with
    | .ok error' => defineAll error' rest
    | .error thrown => .error thrown

/-- The function; the error is what it throws itself. -/
def attachPaymentRecoveryMaterial (err : Thrown) (boundLock : CashuToken)
    (refundSecretKey : String) : Except ErrorObject ErrorObject :=
  match toError err with
  | .ok error => defineAll error (recoveryMaterial boundLock refundSecretKey)
  | .error thrown => .error thrown

/-! ## What it comes to -/

def Carries (error : ErrorObject) (lock : CashuToken) (refundSecretKey : String) : Prop :=
  ∀ m ∈ recoveryMaterial lock refundSecretKey,
    (error.properties.get? m.1).map OwnProperty.value = some m.2

/-- The property can be defined: it is there and configurable, or the object can get new ones. -/
def ErrorObject.Admits (error : ErrorObject) (name : String) : Prop :=
  match error.properties.get? name with
  | some property => property.configurable = true
  | none => error.extensible = true

/-- The values it can attach the material to. -/
def Attachable (lock : CashuToken) (refundSecretKey : String) : Thrown → Prop
  | .error error => ∀ m ∈ recoveryMaterial lock refundSecretKey, error.Admits m.1
  | .other text => text.isSome = true

variable {error error' : ErrorObject} {name : String} {value : PropertyValue}

theorem defineProperty_ok : error.defineProperty name value = .ok error' ↔
    error.Admits name ∧
      error' = { error with properties := error.properties.set name { value := value } } := by
  unfold ErrorObject.defineProperty ErrorObject.Admits
  split
  next property _ =>
    by_cases h : property.configurable = true
    · simp [h, eq_comm]
    · simp [h]
  by_cases h : error.extensible = true
  · simp [h, eq_comm]
  · simp [h]

theorem admits_set_ne {other : String} (hne : other ≠ name) :
    ErrorObject.Admits { error with properties := error.properties.set name { value := value } }
      other ↔ error.Admits other := by
  simp only [ErrorObject.Admits, JsMap.get?_set_ne _ _ hne]

/-- All properties of a list without repetitions are defined exactly when each can be. -/
theorem defineAll_ok : ∀ {ms : List (String × PropertyValue)} {error : ErrorObject},
    (ms.map Prod.fst).Nodup → (∀ m ∈ ms, error.Admits m.1) →
      ∃ error', defineAll error ms = .ok error' ∧
        (∀ m ∈ ms, error'.properties.get? m.1 = some { value := m.2 }) ∧
        ∀ name, name ∉ ms.map Prod.fst → error'.properties.get? name = error.properties.get? name
  | [], error, _, _ => ⟨error, rfl, by simp, fun _ _ => rfl⟩
  | (name, value) :: ms, error, hnodup, hadmits => by
    obtain ⟨hnew, hrest⟩ := List.nodup_cons.mp hnodup
    have hfirst : error.defineProperty name value = .ok _ :=
      defineProperty_ok.mpr ⟨hadmits _ List.mem_cons_self, rfl⟩
    have hadmits' : ∀ m ∈ ms, ErrorObject.Admits
        { error with properties := error.properties.set name { value := value } } m.1 := by
      intro m hm
      have hne : m.1 ≠ name := by
        intro heq
        exact hnew (List.mem_map.mpr ⟨m, hm, heq⟩)
      exact (admits_set_ne hne).mpr (hadmits m (List.mem_cons_of_mem _ hm))
    obtain ⟨error', hall, hms, hother⟩ := defineAll_ok hrest hadmits'
    refine ⟨error', ?_, ?_, ?_⟩
    · rw [defineAll, hfirst]
      exact hall
    · intro m hm
      rcases List.mem_cons.mp hm with rfl | hm
      · rw [hother _ hnew, JsMap.get?_set_self]
      · exact hms m hm
    · intro other hother'
      rw [List.map_cons, List.mem_cons, not_or] at hother'
      rw [hother other hother'.2, JsMap.get?_set_ne _ _ hother'.1]

theorem nodup_recoveryMaterial (lock : CashuToken) (refundSecretKey : String) :
    ((recoveryMaterial lock refundSecretKey).map Prod.fst).Nodup := by
  unfold recoveryMaterial
  split <;> simp

variable {lock : CashuToken} {refundSecretKey : String} {err : Thrown}

theorem carries_attached (h : Attachable lock refundSecretKey err) :
    ∃ error, attachPaymentRecoveryMaterial err lock refundSecretKey = .ok error ∧
      Carries error lock refundSecretKey := by
  have hdefined : ∀ error : ErrorObject,
      (∀ m ∈ recoveryMaterial lock refundSecretKey, error.Admits m.1) →
      ∃ error', defineAll error (recoveryMaterial lock refundSecretKey) = .ok error' ∧
        Carries error' lock refundSecretKey := by
    intro error hadmits
    obtain ⟨error', hall, hms, -⟩ :=
      defineAll_ok (nodup_recoveryMaterial lock refundSecretKey) hadmits
    exact ⟨error', hall, fun m hm => by rw [hms m hm]; rfl⟩
  cases err with
  | error error => exact hdefined error h
  | other text =>
    cases text with
    | none => cases h
    | some text => exact hdefined { name := "Error", message := text } fun m _ => rfl

end Anchr.Customer
