import Anchr.Infra.Json

/-!
# TLSNotary values

`proofs/tlsn-types.ts`. A type guard of the source becomes a reader: it gives the value's members
when the guard holds, and `none` when it does not.
-/

namespace Anchr.Proofs

open Infra

inductive ConditionType where
  | contains
  | regex
  | jsonpath
  deriving DecidableEq

def ConditionType.text : ConditionType → String
  | .contains => "contains"
  | .regex => "regex"
  | .jsonpath => "jsonpath"

/-- A condition on the body. -/
structure TlsnCondition where
  type : ConditionType
  expression : String
  expected : Option String := none
  description : Option String := none

/-- The payload of a requirement. -/
structure TlsnRequirement where
  targetUrl : String
  conditions : Option (List TlsnCondition) := none
  maxAttestationAgeSeconds : Option JsNumber := none
  domainHint : Option String := none

structure TlsnVerifiedData where
  serverName : String
  revealedBody : String
  revealedHeaders : Option String
  sessionTimestamp : JsNumber

def TlsnVerifiedData.toJson (d : TlsnVerifiedData) : Json :=
  .obj ([("server_name", .str d.serverName), ("revealed_body", .str d.revealedBody)] ++
    (d.revealedHeaders.toList.map fun h => ("revealed_headers", .str h)) ++
    [("session_timestamp", .num d.sessionTimestamp)])

/-- A member that may be absent: `some none` is `undefined`, `none` is a value of another type. -/
def optionalMember {α : Type} (j : Json) (name : String) (read : Json → Option α) :
    Option (Option α) :=
  match j.get? name with
  | none => some none
  | some value => (read value).map some

def asNumber? : Json → Option JsNumber
  | .num n => some n
  | _ => none

def readConditionType : Json → Option ConditionType
  | .str "contains" => some .contains
  | .str "regex" => some .regex
  | .str "jsonpath" => some .jsonpath
  | _ => none

/-- `isTlsnCondition`. -/
def readTlsnCondition (value : Json) : Option TlsnCondition := do
  let type ← (value.get? "type").bind readConditionType
  let expression ← value.string? "expression"
  let expected ← optionalMember value "expected" Json.asString?
  let description ← optionalMember value "description" Json.asString?
  some { type, expression, expected, description }

def readConditions : Json → Option (List TlsnCondition)
  | .arr conditions => conditions.mapM readTlsnCondition
  | _ => none

/-- `isHttpMethod`. -/
def readHttpMethod : Json → Option String
  | .str "GET" => some "GET"
  | .str "POST" => some "POST"
  | _ => none

/-- `isTlsnRequirement`. -/
def readTlsnRequirement (value : Json) : Option TlsnRequirement := do
  let targetUrl ← value.string? "target_url"
  let _method ← optionalMember value "method" readHttpMethod
  let conditions ← optionalMember value "conditions" readConditions
  let maxAttestationAgeSeconds ←
    optionalMember value "max_attestation_age_seconds" asNumber?
  let domainHint ← optionalMember value "domain_hint" Json.asString?
  some { targetUrl, conditions, maxAttestationAgeSeconds, domainHint }

/-- `isTlsnAttestation`, with the presentation. -/
def readTlsnAttestation (value : Json) : Option String := value.string? "presentation"

def isTlsnExtensionResultEntry (value : Json) : Bool :=
  (value.string? "type").isSome && (value.string? "part").isSome && (value.string? "value").isSome

/-- `results` of an extension result, when they are well formed. -/
def readResults : Json → Option (List Json)
  | .arr entries => if entries.all isTlsnExtensionResultEntry then some entries else none
  | _ => none

/-- `isTlsnExtensionResult`, with the presentation. -/
def readTlsnExtensionResult (value : Json) : Option (Option String) := do
  let presentation ← optionalMember value "presentation" Json.asString?
  let results ← optionalMember value "results" readResults
  if presentation.isSome || results.isSome then some presentation else none

end Anchr.Proofs
