import Anchr.Infra.JsonRoundtrip

/-!
# Nostr events and NIP-44

What `packages/protocol/src/nostr.ts` takes from nostr-tools, and its wrappers. The random nonce of
an encryption and the clock reading of a builder are arguments.
-/

namespace Anchr.Protocol

open Infra

structure EventTemplate where
  kind : Nat
  createdAt : JsNumber
  tags : List (List String)
  content : String

/-- A signed event. No modelled function reads the signature. -/
structure Event where
  id : String
  pubkey : String
  kind : Nat
  createdAt : JsNumber
  tags : List (List String)
  content : String

/-- The functions of nostr-tools. Byte strings are text. -/
structure NostrTools where
  getPublicKey : String → String
  getConversationKey : String → String → Option String
  /-- Plaintext, conversation key and nonce. -/
  nip44Encrypt : String → String → String → Option String
  /-- Ciphertext and conversation key. -/
  nip44Decrypt : String → String → Option String
  /-- The id of a template signed by a public key. -/
  getEventHash : String → EventTemplate → String

/-- The two ends of a conversation derive the same key, and decryption inverts encryption. -/
structure NostrTools.Lawful (N : NostrTools) : Prop where
  conversation_symm : ∀ a b key, N.getConversationKey a (N.getPublicKey b) = some key →
    N.getConversationKey b (N.getPublicKey a) = some key
  decrypt_encrypt : ∀ content key nonce ciphertext,
    N.nip44Encrypt content key nonce = some ciphertext →
      N.nip44Decrypt ciphertext key = some content

/-- A secret key with the public key derived from it. -/
structure Keypair (N : NostrTools) where
  secretKey : String
  publicKey : String
  derived : N.getPublicKey secretKey = publicKey

/-- What a builder draws from its surroundings: a nonce and `Date.now()`. -/
structure Moment where
  nonce : String
  nowMs : JsNumber

def kindQueryRequest : Nat := 5300
def kindQueryResponse : Nat := 6300
def kindQueryFeedback : Nat := 7000
def kindDirectMessage : Nat := 4

variable (N : NostrTools)

def encryptNip44 (content senderSecretKey recipientPubkey nonce : String) : Option String :=
  (N.getConversationKey senderSecretKey recipientPubkey).bind fun key =>
    N.nip44Encrypt content key nonce

def decryptNip44 (ciphertext recipientSecretKey senderPubkey : String) : Option String :=
  (N.getConversationKey recipientSecretKey senderPubkey).bind fun key =>
    N.nip44Decrypt ciphertext key

def signEvent (template : EventTemplate) (secretKey : String) : Event where
  id := N.getEventHash (N.getPublicKey secretKey) template
  pubkey := N.getPublicKey secretKey
  kind := template.kind
  createdAt := template.createdAt
  tags := template.tags
  content := template.content

/-- `event.tags.find((t) => t[0] === key && t[1])?.[1]`. -/
def findFilledTag (tags : List (List String)) (key : String) : Option String :=
  tags.findSome? fun
    | k :: v :: _ => if k = key ∧ v ≠ "" then some v else none
    | _ => none

variable {N}

/-- What one end encrypts the other end reads. -/
theorem decryptNip44_encryptNip44 (hN : N.Lawful) {sender recipient : Keypair N}
    {content nonce ciphertext : String}
    (h : encryptNip44 N content sender.secretKey recipient.publicKey nonce = some ciphertext) :
    decryptNip44 N ciphertext recipient.secretKey sender.publicKey = some content := by
  obtain ⟨key, hkey, henc⟩ := Option.bind_eq_some_iff.mp h
  rw [← recipient.derived] at hkey
  unfold decryptNip44
  rw [← sender.derived, hN.conversation_symm _ _ _ hkey, Option.bind_some]
  exact hN.decrypt_encrypt _ _ _ _ henc

end Anchr.Protocol
