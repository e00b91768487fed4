import Anchr.Payments.Properties.EscrowLock
import Anchr.Payments.Properties.RedeemFailure

/-!
# Who may redeem a Provider-bound lock

Before the mint is asked, the proofs should satisfy their locks. `redeemHtlcToken` checks the signed
proofs. The client's `redeemHtlc` checks the preimage and leaves the signatures to the mint.
-/

namespace Anchr.Payments

open Infra Frost

def witnessPreimage (text : NumberText) (proof : SpendableProof) : Option String :=
  (Json.obj (parseWitness text proof.witness)).string? "preimage"

/-- The library's view of locks and signatures: a signature is added for a lock key and for no other
key, and with the hashlock open a proof is authorised by its signers. -/
structure LockTools (H : HtlcTools) where
  publicKey : String → String
  /-- The keys that can sign for a secret. -/
  lockKeys : String → List String
  /-- Whether signatures of these keys satisfy the P2PK lock of a secret. -/
  satisfies : String → List String → Bool
  /-- The keys whose signatures are in the witness. -/
  signers : SpendableProof → List String
  unsigned : ∀ proof preimage, signers (withPreimage H.text preimage proof) = []
  signs_each : ∀ proofs preimage key signedProofs,
    H.signP2PKProofs (proofs.map (withPreimage H.text preimage)) key = some signedProofs →
    List.Forall₂ (fun proof signed =>
      if publicKey key ∈ lockKeys proof.secret then
        signers signed = [publicKey key] ∧ witnessPreimage H.text signed = some preimage ∧
          signed.secret = proof.secret
      else signed = withPreimage H.text preimage proof) proofs signedProofs
  authorised : ∀ proof preimage, witnessPreimage H.text proof = some preimage →
    OpensHashlock H preimage proof →
    (H.isHTLCSpendAuthorised proof = some true ↔ satisfies proof.secret (signers proof) = true)

/-- The key, if the lock asks for it. -/
def LockTools.ownSigners {H : HtlcTools} (L : LockTools H) (key secret : String) : List String :=
  if L.publicKey key ∈ L.lockKeys secret then [L.publicKey key] else []

variable {H : HtlcTools}

theorem parseWitness_withPreimage (text : NumberText) (preimage : String) (proof : SpendableProof) :
    parseWitness text (withPreimage text preimage proof).witness = preimageRecord preimage := by
  have hdoubles : (Json.obj (preimageRecord preimage)).Doubles text := by
    simp [preimageRecord, Json.Doubles, Json.DoublesMembers, Json.DoublesElems]
  exact parseWitness_stringify hdoubles

theorem witnessPreimage_withPreimage (text : NumberText) (preimage : String)
    (proof : SpendableProof) :
    witnessPreimage text (withPreimage text preimage proof) = some preimage := by
  unfold witnessPreimage
  rw [parseWitness_withPreimage]
  rfl

variable {proof : SpendableProof} {preimage key : String}

theorem LockTools.authorised_of_signed (L : LockTools H) {signed : SpendableProof}
    (hopens : OpensHashlock H preimage proof)
    (hsigned : if L.publicKey key ∈ L.lockKeys proof.secret then
        L.signers signed = [L.publicKey key] ∧ witnessPreimage H.text signed = some preimage ∧
          signed.secret = proof.secret
      else signed = withPreimage H.text preimage proof) :
    H.isHTLCSpendAuthorised signed = some true ↔
      L.satisfies proof.secret (L.ownSigners key proof.secret) = true := by
  unfold LockTools.ownSigners
  split at hsigned
  next hkey =>
    obtain ⟨hsigners, hpreimage, hsecret⟩ := hsigned
    have hopens' : OpensHashlock H preimage signed := by
      unfold OpensHashlock
      rw [hsecret]
      exact hopens
    rw [L.authorised signed preimage hpreimage hopens', hsigners, hsecret, if_pos hkey]
  next hkey =>
    subst hsigned
    rw [L.authorised _ preimage (witnessPreimage_withPreimage _ _ _) hopens, L.unsigned,
      if_neg hkey]
    rfl

/-- Proofs whose hashlocks are open are authorised by signing if and only if each lock is satisfied
by the one signature. -/
theorem authorised_iff_of_prepared (L : LockTools H) {proofs signedProofs : List SpendableProof}
    (hopens : ∀ proof ∈ proofs, OpensHashlock H preimage proof)
    (h : prepareHtlcRedemption H proofs preimage key = some signedProofs) :
    (∀ signed ∈ signedProofs, H.isHTLCSpendAuthorised signed = some true) ↔
      ∀ proof ∈ proofs, L.satisfies proof.secret (L.ownSigners key proof.secret) = true := by
  have hsigned := L.signs_each _ _ _ _ h
  clear h
  induction hsigned with
  | nil => simp
  | cons hone _ ih =>
    rw [List.forall_mem_cons] at hopens
    rw [List.forall_mem_cons, List.forall_mem_cons]
    exact and_congr (L.authorised_of_signed hopens.1 hone) (ih hopens.2)

/-- What either entry point hands to the swap. -/
theorem swap_authorised_iff (L : LockTools H) :
    (∀ libraryError walletAndConfig htlcProofs preimage providerPrivateKey mintUrl signedProofs key,
      redeemHtlcTokenStart H libraryError walletAndConfig htlcProofs preimage providerPrivateKey =
        .swap mintUrl signedProofs key →
      ∀ signed ∈ signedProofs, H.isHTLCSpendAuthorised signed = some true) ∧
    ∀ libraryError p proofs signedProofs key, H.getDecodedProofs p.token = some proofs →
      redeemHtlcStart H libraryError p = .ok (signedProofs, key) →
      ((∀ signed ∈ signedProofs, H.isHTLCSpendAuthorised signed = some true) ↔
        ∀ proof ∈ proofs, L.satisfies proof.secret
          (L.ownSigners (bytesToHex p.providerSecretKey) proof.secret) = true) := by
  constructor
  · intro libraryError walletAndConfig htlcProofs preimage providerPrivateKey mintUrl signedProofs
      key hstart
    exact (redeemHtlcTokenStart_swap hstart).2.2.2
  · intro libraryError p proofs signedProofs key hdecoded hstart
    obtain ⟨proofs', hdecoded', -, hopens, rfl, hsigned⟩ := redeemHtlcStart_ok.mp hstart
    rw [hdecoded] at hdecoded'
    obtain rfl := Option.some.inj hdecoded'
    exact authorised_iff_of_prepared L hopens hsigned

/-! ## A bound lock and two keys -/

def pubkeysOf (secret : String) : List String :=
  match Json.parse .safeIntegers secret with
  | some (.arr [_, body]) => ((findSecretTag (body.get? "tags") "pubkeys").map List.tail).getD []
  | _ => []

def plainPublicKey (key : String) : String := if key = "01" then providerKey else strangerKey

def plainHash (preimage : String) : String := if preimage = "" then lockHash else "00" ++ preimage

def plainLockSign (key : String) (proof : SpendableProof) : SpendableProof :=
  if plainPublicKey key ∈ pubkeysOf proof.secret then
    appendGroupSignature .safeIntegers proof (plainPublicKey key)
  else proof

def plainSigners (proof : SpendableProof) : List String :=
  getWitnessSignatures (parseWitness .safeIntegers proof.witness)

/-- A proof that is locked to the Provider. -/
def heldProof : SpendableProof :=
  { toProof := htlcProof [providerKey], witness := none, others := [] }

/-- The library, with these keys. -/
def plainHtlcTools : HtlcTools where
  toFrostTools := tokenTools [htlcProof [providerKey]]
  getDecodedProofs token := if token = encodeToken [htlcProof [providerKey]] then some [heldProof]
    else none
  decodes token := by
    show (if _ then _ else _) = _
    split <;> rfl
  signP2PKProofs proofs key := some (proofs.map (plainLockSign key))
  signs proofs key signed h := by
    cases h
    rw [List.map_map]
    refine List.map_congr_left fun proof _ => ?_
    simp only [Function.comp_apply, plainLockSign]
    split <;> rfl
  encodeProofs _ proofs := encodeToken (proofs.map SpendableProof.toProof)
  verifyHTLCHash preimage hash := some (plainHash preimage = hash)
  isHTLCSpendAuthorised proof :=
    match witnessPreimage .safeIntegers proof,
      (Json.parse .safeIntegers proof.secret).bind htlcData with
    | some preimage, some (some (.str hash)) =>
      some (plainHash preimage = hash && (plainSigners proof).any (· ∈ pubkeysOf proof.secret))
    | _, _ => some false

theorem plainLockSign_withPreimage (hkey : plainPublicKey key ∈ pubkeysOf proof.secret) :
    plainSigners (plainLockSign key (withPreimage .safeIntegers preimage proof)) =
        [plainPublicKey key] ∧
      witnessPreimage .safeIntegers
        (plainLockSign key (withPreimage .safeIntegers preimage proof)) = some preimage := by
  have hsign : plainLockSign key (withPreimage .safeIntegers preimage proof) =
      appendGroupSignature .safeIntegers (withPreimage .safeIntegers preimage proof)
        (plainPublicKey key) := if_pos hkey
  have hrecord : withGroupSignature .safeIntegers (withPreimage .safeIntegers preimage proof)
      (plainPublicKey key) =
        [("preimage", .str preimage), ("signatures", .arr [.str (plainPublicKey key)])] := by
    unfold withGroupSignature
    rw [parseWitness_withPreimage]
    rfl
  have hparse : parseWitness .safeIntegers (appendGroupSignature .safeIntegers
      (withPreimage .safeIntegers preimage proof) (plainPublicKey key)).witness =
        [("preimage", .str preimage), ("signatures", .arr [.str (plainPublicKey key)])] := by
    unfold appendGroupSignature
    rw [hrecord]
    refine parseWitness_stringify ?_
    simp [Json.Doubles, Json.DoublesMembers, Json.DoublesElems]
  rw [hsign]
  constructor
  · rw [plainSigners, hparse]
    rfl
  · rw [witnessPreimage, hparse]
    rfl

def plainLockTools : LockTools plainHtlcTools where
  publicKey := plainPublicKey
  lockKeys := pubkeysOf
  satisfies secret signers := signers.any (· ∈ pubkeysOf secret)
  signers := plainSigners
  unsigned proof preimage := by
    show getWitnessSignatures
      (parseWitness .safeIntegers (withPreimage .safeIntegers preimage proof).witness) = _
    rw [parseWitness_withPreimage]
    rfl
  signs_each proofs preimage key signedProofs h := by
    cases h
    rw [List.map_map, List.forall₂_map_right_iff]
    refine List.forall₂_same.mpr fun proof _ => ?_
    split
    next hkey =>
      obtain ⟨hsigners, hpreimage⟩ := plainLockSign_withPreimage hkey
      refine ⟨hsigners, hpreimage, ?_⟩
      simp only [Function.comp_apply, plainLockSign]
      split <;> rfl
    next hkey => exact if_neg hkey
  authorised proof preimage hpreimage hopens := by
    obtain ⟨secret, expectedHash, hsecret, hdata, hverified⟩ := hopens
    have hhash : plainHash preimage = expectedHash := by
      simpa [plainHtlcTools] using hverified
    have hread : (Json.parse .safeIntegers proof.secret).bind htlcData =
        some (some (.str expectedHash)) := by
      rw [show Json.parse .safeIntegers proof.secret = some secret from hsecret]
      exact hdata
    have hwitness : witnessPreimage .safeIntegers proof = some preimage := hpreimage
    simp only [plainHtlcTools, hwitness, hread, hhash]
    simp

theorem wellKnown_heldProof : WellKnown .safeIntegers heldProof.secret "HTLC" lockHash
    (["pubkeys", providerKey] :: refundTags) :=
  wellKnown_secretOf "HTLC" lockHash _

theorem pubkeysOf_heldProof : pubkeysOf heldProof.secret = [providerKey] := by
  obtain ⟨body, hparse, -, htags⟩ := wellKnown_heldProof
  rw [pubkeysOf, hparse]
  show ((findSecretTag (body.get? "tags") "pubkeys").map List.tail).getD [] = _
  rw [htags]
  rfl

theorem opensHashlock_heldProof : OpensHashlock plainHtlcTools "" heldProof := by
  obtain ⟨body, hparse, hdata, -⟩ := wellKnown_heldProof
  refine ⟨.arr [.str "HTLC", body], lockHash, hparse, ?_, ?_⟩
  · show some (body.get? "data") = _
    rw [hdata]
  · show some (decide (plainHash "" = lockHash)) = _
    simp [plainHash]

/-- The Provider redeems the token. -/
def plainRedemption (providerSecretKey : List UInt8) : RedeemHtlcParams where
  token := encodeToken [htlcProof [providerKey]]
  preimageHex := ""
  providerSecretKey := providerSecretKey

theorem getDecodedProofs_plain (providerSecretKey : List UInt8) :
    plainHtlcTools.getDecodedProofs (plainRedemption providerSecretKey).token =
      some [heldProof] := by
  simp only [plainHtlcTools, plainRedemption, if_true]

theorem redeemHtlcStart_plain (providerSecretKey : List UInt8) :
    redeemHtlcStart plainHtlcTools "" (plainRedemption providerSecretKey) =
      .ok ([plainLockSign (bytesToHex providerSecretKey)
        (withPreimage .safeIntegers "" heldProof)], bytesToHex providerSecretKey) := by
  refine redeemHtlcStart_ok.mpr
    ⟨[heldProof], getDecodedProofs_plain _, List.cons_ne_nil _ _, ?_, rfl, rfl⟩
  rw [List.forall_mem_singleton]
  exact opensHashlock_heldProof

theorem satisfies_provider {secret : String} (h : providerKey ∈ pubkeysOf secret) :
    plainLockTools.satisfies secret (plainLockTools.ownSigners "01" secret) = true := by
  have hown : plainLockTools.ownSigners "01" secret = [providerKey] := if_pos h
  rw [hown]
  show ([providerKey].any (· ∈ pubkeysOf secret)) = true
  simp [h]

/-- The Provider is authorised. -/
theorem swap_authorised_plain :
    plainHtlcTools.isHTLCSpendAuthorised
      (plainLockSign "01" (withPreimage .safeIntegers "" heldProof)) = some true := by
  refine ((swap_authorised_iff plainLockTools).2 "" (plainRedemption [1]) [heldProof] _ _
    (getDecodedProofs_plain [1]) (redeemHtlcStart_plain [1])).mpr ?_ _ List.mem_cons_self
  rw [List.forall_mem_singleton]
  refine satisfies_provider ?_
  rw [pubkeysOf_heldProof]
  exact List.mem_singleton.mpr rfl

theorem unauthorised_of_unsigned (h : OpensHashlock plainHtlcTools "" proof) :
    plainHtlcTools.isHTLCSpendAuthorised (withPreimage .safeIntegers "" proof) ≠ some true := by
  intro hauthorised
  have hsigners := (plainLockTools.authorised (withPreimage .safeIntegers "" proof) ""
    (witnessPreimage_withPreimage _ _ _) h).mp hauthorised
  have hunsigned : plainLockTools.signers (withPreimage .safeIntegers "" proof) = [] :=
    plainLockTools.unsigned proof ""
  rw [hunsigned] at hsigners
  cases hsigners

theorem startsSwap_one (h : proof.amount = .ofInt 1) :
    startsSwap (failedSwap none) [proof] = true := by
  have hamount : swapAmount (failedSwap none) [proof] = .ofInt 1 := by
    show ((JsNumber.ofInt 0).add proof.amount).sub (.ofInt 0) = _
    rw [h]
    decide +kernel
  rw [startsSwap, prepareSwap, hamount]
  rfl

theorem plainLockSign_stranger (h : strangerKey ∉ pubkeysOf proof.secret) :
    plainLockSign "02" (withPreimage .safeIntegers preimage proof) =
      withPreimage .safeIntegers preimage proof := if_neg h

/-- With the preimage and another key, the client asks the mint to swap a proof without a
signature. -/
theorem swap_unauthorised :
    redeemHtlcStart plainHtlcTools "" (plainRedemption [2]) =
        .ok ([withPreimage .safeIntegers "" heldProof], "02") ∧
      startsSwap (failedSwap none) [withPreimage .safeIntegers "" heldProof] = true ∧
      plainHtlcTools.isHTLCSpendAuthorised (withPreimage .safeIntegers "" heldProof) ≠
        some true := by
  refine ⟨?_, startsSwap_one rfl, unauthorised_of_unsigned opensHashlock_heldProof⟩
  have hstranger : strangerKey ∉ pubkeysOf heldProof.secret := by
    rw [pubkeysOf_heldProof]
    decide
  have hstart := redeemHtlcStart_plain [2]
  rw [show bytesToHex [2] = "02" from rfl, plainLockSign_stranger hstranger] at hstart
  exact hstart

end Anchr.Payments
