import Anchr.Frost.Properties.NonceUse

/-!
# A peer signs derived messages only

Round 1 of a node refuses every message that it cannot derive from the verified requirement.
-/

namespace Anchr.Frost

open Infra Payments Proofs Requests SignerRoutes

/-- The message of a query id, or of a proof of the token that the requirement names. -/
def Derived (K : FrostTools) (node : FrostNodeConfig) (requirement : VerificationRequirement)
    (escrowToken : Option String) (message : String) : Prop :=
  message = sha256Utf8Hex K ("anchr:sign:" ++ requirement.id) ∨
    ∃ token proofs, escrowToken = some token ∧
      SpendsToken K message requirement token node.groupPubkey proofs

/-- No JSON value starts with the letter `a`. -/
theorem parse_signingText (T : NumberText) (queryId : String) :
    Json.parse T ("anchr:sign:" ++ queryId) = none := by
  have hchars : ("anchr:sign:" ++ queryId).toList =
      'a' :: ("nchr:sign:".toList ++ queryId.toList) := by
    rw [String.toList_append]
    rfl
  have hskip : ∀ l, Json.skipWs ('a' :: l) = 'a' :: l := fun _ => rfl
  have hvalue : ∀ n l, Json.readValue T (n + 1) ('a' :: l) = none := by
    intro n l
    rw [Json.readValue]
    simp [Json.readNumber, isNumberChar, isNumberToken]
  rw [Json.parse, hchars, Json.parseChars, hskip, hvalue]

theorem signingMessage_ne_spendMessage {K : FrostTools} (hsha : Function.Injective K.sha256)
    {secret : String} {value : Json} (hparse : Json.parse K.text secret = some value)
    (queryId : String) : deriveFrostSigningMessage K queryId ≠ sha256Utf8Hex K secret := by
  intro heq
  rw [← sha256Utf8Hex_injective K hsha heq, parse_signingText] at hparse
  cases hparse

/-- Round 1 accepts only derived messages. If SHA-256 is injective, a message of the first kind is
the spend message of no P2PK proof. -/
theorem accepted_message_derived (K : FrostTools) (node : FrostNodeConfig) :
    (∀ t call body detail, AcceptsRound1 K node t call body detail →
      ∃ message requirement, body.message = some message ∧ body.requirement = some requirement ∧
        Derived K node requirement body.escrowToken message) ∧
    (Function.Injective K.sha256 → ∀ secret rest,
      Json.parse K.text secret = some (.arr (.str "P2PK" :: rest)) →
        ∀ queryId, deriveFrostSigningMessage K queryId ≠ sha256Utf8Hex K secret) := by
  constructor
  · intro t call body detail haccepts
    obtain ⟨message, requirement, input, -, hmessage, hrequirement, -, -, hallowed⟩ :=
      acceptsRound1_iff.mp haccepts
    refine ⟨message, requirement, hmessage, hrequirement, ?_⟩
    rcases isAllowedSigningMessage_iff.mp hallowed with
      hid | ⟨token, proofs, htoken, -, -, hspends⟩
    · exact .inl hid
    · exact .inr ⟨token, proofs, htoken, hspends⟩
  · intro hsha secret rest hparse queryId
    exact signingMessage_ne_spendMessage hsha hparse queryId

def plainTokenRequirement : VerificationRequirement where
  id := "q"
  escrowTokenHash := some (deriveFrostEscrowTokenHash plainTools plainToken)

/-- The message of the second proof. -/
def plainSpend : Round1Body where
  message := some (sha256Utf8Hex plainTools (plainSecret "2"))
  requirement := some plainTokenRequirement
  input := some {}
  escrowToken := some plainToken

theorem acceptsRound1_plainSpend :
    AcceptsRound1 plainTools plainNode {} 0 plainSpend passedDetail := by
  have hproof : (⟨.ofInt 2, plainSecret "2"⟩ : Proof) ∈ plainProofs :=
    List.mem_cons_of_mem _ List.mem_cons_self
  have hhash : plainTokenRequirement.escrowTokenHash =
    some (deriveFrostEscrowTokenHash plainTools plainToken) := rfl
  have hallowed := isAllowedSigningMessage_plain hhash hproof
  have hmessage := sha256Utf8Hex_ne plainTools_sha256_ne_nil (plainSecret "2")
  exact acceptsRound1_iff.mpr ⟨_, plainTokenRequirement, {}, hmessage, rfl, rfl, rfl, rfl, hallowed⟩

/-- It is accepted, and derived. -/
theorem accepted_message_derived_token :
    (∃ message requirement, plainSpend.message = some message ∧
      plainSpend.requirement = some requirement ∧
      Derived plainTools plainNode requirement plainSpend.escrowToken message) ∧
    deriveFrostSigningMessage plainTools "q" ≠ sha256Utf8Hex plainTools (plainSecret "2") := by
  obtain ⟨hderived, hapart⟩ := accepted_message_derived plainTools plainNode
  refine ⟨hderived {} 0 plainSpend passedDetail acceptsRound1_plainSpend, ?_⟩
  exact hapart plainTools_sha256_injective _ _ (parse_plainSecret "2") "q"

end Anchr.Frost
