import Anchr.Frost.SignatureAdapter

/-!
# Redeeming a FROST lock

`redeemFrostP2PKToken` and `appendFrostP2PKGroupSignatures` of
`payments/cashu/frost-escrow-provider.ts`, up to and after the call of `redeemSignedProofs`.
-/

namespace Anchr.Payments

open Infra Frost

/-! ## Proofs with witnesses -/

/-- `Proof` of the Cashu library. -/
structure SpendableProof extends Proof where
  /-- Absent, a text or an object. -/
  witness : Option Json
  /-- The fields that are passed on as they are: `id`, `C`, `dleq`. -/
  others : List (String × Json)

def SpendableProof.unwitnessed (proof : SpendableProof) : SpendableProof :=
  { proof with witness := none }

/-- What the redemption takes from the Cashu library. Decoding is the function the signing messages
are derived with, and signing a proof changes its witness only. -/
structure RedeemTools extends FrostTools where
  getDecodedProofs : String → Option (List SpendableProof)
  decodes : ∀ token, getDecodedToken token =
    (getDecodedProofs token).map fun proofs => proofs.map SpendableProof.toProof
  /-- `none` when it throws. -/
  signP2PKProofs : List SpendableProof → String → Option (List SpendableProof)
  signs : ∀ proofs key signed, signP2PKProofs proofs key = some signed →
    signed.map SpendableProof.unwitnessed = proofs.map SpendableProof.unwitnessed
  /-- `encodeProofs`, for the mint of the configuration. -/
  encodeProofs : String → List SpendableProof → String

/-! ## Witnesses -/

/-- The own members of an object, the elements of an array under their indices. -/
def ownMembers : Json → List (String × Json)
  | .obj members => members
  | .arr elems => elems.zipIdx.map fun e => (toString e.2, e.1)
  | _ => []

/-- The record a witness stands for. A text that is no JSON stands for the empty one. -/
def parseWitness (text : NumberText) (witness : Option Json) : List (String × Json) :=
  match witness with
  | some (.str s) => ((Json.parse text s).map ownMembers).getD []
  | some other => ownMembers other
  | none => []

theorem parseWitness_stringify {text : NumberText} {record : List (String × Json)}
    (h : (Json.obj record).Doubles text) :
    parseWitness text (some (.str ((Json.obj record).stringify text))) = record := by
  show ((Json.parse text _).map ownMembers).getD [] = _
  rw [Json.parse_stringify h]
  rfl

def getWitnessSignatures (witness : List (String × Json)) : List String :=
  match (Json.obj witness).get? "signatures" with
  | some (.arr signatures) => signatures.filterMap Json.asString?
  | _ => []

/-- `{ ...record, [name]: value }`: a member of the name keeps its place. -/
def spreadWith (record : List (String × Json)) (name : String) (value : Json) :
    List (String × Json) :=
  if record.any fun m => m.1 == name then
    record.map fun m => if m.1 = name then (m.1, value) else m
  else record ++ [(name, value)]

section

variable (record : List (String × Json)) (name : String) (value : Json)

variable {name}

end

/-! ## Group signatures -/

def withGroupSignature (text : NumberText) (proof : SpendableProof) (groupSignature : String) :
    List (String × Json) :=
  let witness := parseWitness text proof.witness
  let signatures := getWitnessSignatures witness
  spreadWith witness "signatures" (.arr ((signatures ++ [groupSignature]).map .str))

def appendGroupSignature (text : NumberText) (proof : SpendableProof) (groupSignature : String) :
    SpendableProof :=
  { proof with
    witness := some (.str ((Json.obj (withGroupSignature text proof groupSignature)).stringify
      text)) }

structure Countersigned (text : NumberText) (signed : SpendableProof) (groupSignature : String)
    (handed : SpendableProof) : Prop where
  proof : handed.unwitnessed = signed.unwitnessed
  witness : ∃ record, handed.witness = some (.str ((Json.obj record).stringify text)) ∧
    getWitnessSignatures record =
      getWitnessSignatures (parseWitness text signed.witness) ++ [groupSignature] ∧
    (∀ name, name ≠ "signatures" →
      (Json.obj record).get? name = (Json.obj (parseWitness text signed.witness)).get? name) ∧
    -- the mint reads the record back, unless a number in it overflows
    ((Json.obj record).Doubles text → parseWitness text handed.witness = record)

inductive RedeemSwapFailureReason where
  | feeExceedsAmount
  | mintError
  | stateUnknown
  | inputsUnspent
  | outputsNotRegistered
  | restoreFailed
  | restoreEmpty
  deriving DecidableEq

/-- What `redeemSignedProofs` returns. -/
inductive RedeemSwapResult where
  | ok (proofs : List SpendableProof) (amountSats : JsNumber) (recovered : Bool)
  | failed (reason : RedeemSwapFailureReason) (retrySafe uncertain : Bool)

variable (R : RedeemTools)

variable {R}

variable {groupSignatures : List String} {proofs handed : List SpendableProof}
  {key encodedToken providerPrivateKey libraryError : String} {walletAndConfig : Settled String}

end Anchr.Payments
