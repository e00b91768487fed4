import Anchr.Payments.Properties.EscrowLock

/-!
# Two readers of one lock

The escrow provider checks a lock when a Provider is selected, and every peer of the group checks it
again before it signs. Both read the same tags, the first `n_sigs` tag the one and the last one the
other, and only the peers want a proof to be there.
-/

namespace Anchr.Frost

open Infra Payments Proofs

variable {K : FrostTools} {groupPubkey providerPubkey : String}

theorem readStringTags_eq (body : Json) :
    FrostEscrow.readStringTags (body.get? "tags") = (tagsOf body).filterMap tagStrings? := by
  unfold FrostEscrow.readStringTags tagsOf
  generalize body.get? "tags" = tags
  cases tags with
  | none => rfl
  | some json => cases json <;> rfl

/-- The keys that the escrow provider looks at are seen by a peer. -/
theorem lists_of_lockPubkeys {body : Json} {key : String}
    (h : key ∈ FrostEscrow.lockPubkeys body) : Lists body key := by
  rw [FrostEscrow.lockPubkeys, readStringTags_eq] at h
  rcases List.mem_append.mp h with hdata | hpubkeys
  · exact .inl (Option.mem_toList.mp hdata)
  · cases hfind : FrostEscrow.findTag ((tagsOf body).filterMap tagStrings?) "pubkeys" with
    | none =>
      rw [hfind] at hpubkeys
      cases hpubkeys
    | some found =>
      obtain ⟨keys, rfl, hmem⟩ := FrostEscrow.findTag_eq_some hfind
      obtain ⟨tag, htag, hstrings⟩ := List.mem_filterMap.mp hmem
      rw [hfind] at hpubkeys
      exact .inr ⟨tag, htag, keys, hstrings, hpubkeys⟩

/-- The last number of signatures that the secret of the proof gives is two. -/
def LastNSigsTwo (K : FrostTools) (proof : Proof) : Prop :=
  ∀ kind body rest, Json.parse K.text proof.secret = some (.arr (kind :: body :: rest)) →
    StatesNSigs body "2"

/-- A peer finds the group's key where the escrow provider has found it, so only the number of
signatures is open. -/
theorem requiresGroup_iff {proof : Proof}
    (h : FrostEscrow.Passes K groupPubkey providerPubkey proof) :
    RequiresGroup K proof.secret groupPubkey ↔ LastNSigsTwo K proof := by
  obtain ⟨body, rest, hparse, -, -, key, hkey, hgroup⟩ := h
  constructor
  · rintro ⟨body', rest', hparse', hsigs, -⟩ kind body'' rest'' hparse''
    rw [hparse'] at hparse''
    obtain ⟨⟩ := hparse''
    exact hsigs
  · intro hlast
    exact ⟨body, rest, hparse, hlast _ _ _ hparse, key, lists_of_lockPubkeys hkey, hgroup⟩

theorem isAllowedSigningMessage_of_matches {token message : String} {messages : List String}
    {requirement : VerificationRequirement} (htoken : token ≠ "")
    (hmatches : tokenMatchesFrostP2pkLock K token groupPubkey = true)
    (hhash : requirement.escrowTokenHash = some (deriveFrostEscrowTokenHash K token))
    (hne : deriveFrostEscrowTokenHash K token ≠ "")
    (hmessages : deriveFrostP2pkMessages K token = some messages) (hmem : message ∈ messages) :
    isAllowedSigningMessage K message requirement (some token) groupPubkey = true := by
  obtain ⟨proofs, hdecoded, hproofs, hlocked⟩ := tokenMatchesFrostP2pkLock_iff.mp hmatches
  rw [deriveFrostP2pkMessages, hdecoded, Option.map_some] at hmessages
  cases hmessages
  obtain ⟨proof, hproof, rfl⟩ := List.mem_map.mp hmem
  refine isAllowedSigningMessage_of_spends htoken ?_ ⟨hhash, hdecoded, hproofs, hlocked, proof,
    hproof, rfl⟩
  rw [hhash]
  exact fun heq => hne (Option.some.inj heq)

/--
For every token that the FROST escrow provider's `verifyLock` accepts: the peers' check of the token
succeeds if and only if the token has a proof and the last number of signatures that each secret
gives is two. When it succeeds, every peer with that group key accepts the messages that are derived
from the token, for a requirement that names the token.
-/
theorem peers_accept_iff (K : FrostTools) (E : ErrorTexts) (tokenMap : JsMap String String)
    (escrowRef paymentHash groupPubkey providerPubkey : String) {token : String}
    {proofs : List Proof} (htoken : tokenMap.get? escrowRef = some token)
    (hproofs : K.getDecodedToken token = some proofs)
    (hok : FrostEscrow.verifyLock K E groupPubkey tokenMap escrowRef paymentHash providerPubkey =
      .ok) :
    (tokenMatchesFrostP2pkLock K token groupPubkey = true ↔
      proofs ≠ [] ∧ ∀ proof ∈ proofs, LastNSigsTwo K proof) ∧
    (tokenMatchesFrostP2pkLock K token groupPubkey = true → token ≠ "" →
      deriveFrostEscrowTokenHash K token ≠ "" → ∀ requirement messages,
        requirement.escrowTokenHash = some (deriveFrostEscrowTokenHash K token) →
        deriveFrostP2pkMessages K token = some messages → ∀ message ∈ messages,
          isAllowedSigningMessage K message requirement (some token) groupPubkey = true) := by
  obtain ⟨token', proofs', htoken', hproofs', hpasses⟩ := FrostEscrow.verifyLock_ok.mp hok
  obtain rfl := Option.some.inj (htoken.symm.trans htoken')
  obtain rfl := Option.some.inj (hproofs.symm.trans hproofs')
  constructor
  · rw [tokenMatchesFrostP2pkLock_iff]
    constructor
    · rintro ⟨proofs', hdecoded, hne, hlocked⟩
      obtain rfl := Option.some.inj (hproofs.symm.trans hdecoded)
      exact ⟨hne, fun proof hproof =>
        (requiresGroup_iff (hpasses proof hproof)).mp (hlocked proof hproof)⟩
    · rintro ⟨hne, hlast⟩
      exact ⟨proofs, hproofs, hne, fun proof hproof =>
        (requiresGroup_iff (hpasses proof hproof)).mpr (hlast proof hproof)⟩
  · intro hmatches hfilled hhashed requirement messages hhash hmessages message hmem
    exact isAllowedSigningMessage_of_matches hfilled hmatches hhash hhashed hmessages hmem

/-! ## Fixed tokens -/

/-- The lock of the Provider and the group is accepted by the escrow provider and by the peers. -/
theorem peers_accept_expected :
    tokenMatchesFrostP2pkLock (tokenTools [p2pkProof [plainGroup] refundTags])
      (encodeToken [p2pkProof [plainGroup] refundTags]) plainGroup = true := by
  refine (peers_accept_iff _ plainErrors _ "ref" lockHash plainGroup providerKey
    (JsMap.get?_set_self _ _ _) (getDecodedToken_tokenTools _)
    (accepted_p2pkProof [] refundTags)).1.mpr ⟨List.cons_ne_nil _ _, fun proof hproof => ?_⟩
  obtain rfl := List.mem_singleton.mp hproof
  obtain ⟨body, hparse, -, htags⟩ := wellKnown_secretOf "P2PK" providerKey
    (["pubkeys", plainGroup] :: ["n_sigs", "2"] :: refundTags)
  intro kind body' rest hparse'
  obtain ⟨⟩ := Option.some.inj (hparse.symm.trans hparse')
  refine ⟨[stringTag ["pubkeys", plainGroup]], stringTag ["n_sigs", "2"],
    refundTags.map stringTag, ?_, ⟨[], rfl⟩, ?_⟩
  · rw [tagsOf, htags]
    rfl
  · rintro other hother n ⟨more, hgives⟩
    obtain ⟨tag, htag, rfl⟩ := List.mem_map.mp hother
    rw [tagStrings?_eq_some.mpr (rfl : stringTag tag = _)] at hgives
    cases hgives
    simp [refundTags] at htag

/-- A second `n_sigs` tag asks for one signature. The escrow provider accepts the lock, and no peer
does. -/
theorem accepted_lock_unsigned :
    FrostEscrow.verifyLock (tokenTools [p2pkProof [plainGroup] [["n_sigs", "1"]]]) plainErrors
        plainGroup (storedToken (p2pkProof [plainGroup] [["n_sigs", "1"]])) "ref" lockHash
        providerKey = .ok ∧
      tokenMatchesFrostP2pkLock (tokenTools [p2pkProof [plainGroup] [["n_sigs", "1"]]])
        (encodeToken [p2pkProof [plainGroup] [["n_sigs", "1"]]]) plainGroup = false := by
  refine ⟨accepted_p2pkProof [] _, Bool.eq_false_iff.mpr fun hmatches => ?_⟩
  obtain ⟨proofs, hdecoded, -, hlocked⟩ := tokenMatchesFrostP2pkLock_iff.mp hmatches
  rw [getDecodedToken_tokenTools] at hdecoded
  cases hdecoded
  obtain ⟨body, rest, hparse, hsigs, -⟩ := hlocked _ (List.mem_singleton_self _)
  obtain ⟨body', hparse', -, htags⟩ := wellKnown_secretOf "P2PK" providerKey
    (["pubkeys", plainGroup] :: ["n_sigs", "2"] :: [["n_sigs", "1"]])
  have hbody : body' = body ∧ [] = rest := by simpa using hparse'.symm.trans hparse
  -- the loop over the tags ends with the second number
  have hcount : (readLock body).nSigs = "2" := nSigs_readLock.mpr hsigs
  rw [readLock, tagsOf, ← hbody.1, htags] at hcount
  exact absurd hcount (by simp [stringTag, LockTags.read, tagStrings?, Json.asString?])

end Anchr.Frost
