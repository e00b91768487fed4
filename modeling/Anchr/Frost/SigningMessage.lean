import Anchr.Infra.JsonRoundtrip
import Anchr.Infra.Text
import Anchr.Payments.PaymentLock
import Anchr.Proofs.Contract

/-!
# Messages a peer signs

`payments/frost/signing-message.ts`, and `isAllowedSigningMessage` of
`adapters/oracle-service/frost-signer-routes.ts`.
-/

namespace Anchr.Frost

open Infra Payments Proofs

/-- What the libraries give. -/
structure FrostTools where
  text : NumberText
  /-- `sha256` of the hash library, on bytes. -/
  sha256 : List UInt8 → List UInt8
  /-- `getDecodedToken` of the Cashu library: the proofs of an encoded token, `none` when it
  throws. Every caller leaves out the known keysets. -/
  getDecodedToken : String → Option (List Proof)
  /-- `toLowerCase` on all of Unicode. -/
  toLowerCase : String → String

variable (K : FrostTools)

/-! ## Derived messages -/

/-- A message is the SHA-256 of a text, in hex. -/
def sha256Utf8Hex (value : String) : String := bytesToHex (K.sha256 (utf8 value))

/-- The text is the query id behind a fixed word. -/
def deriveFrostSigningMessage (queryId : String) : String :=
  sha256Utf8Hex K ("anchr:sign:" ++ queryId)

def deriveFrostEscrowTokenHash (encodedToken : String) : String := sha256Utf8Hex K encodedToken

/-- `none` when the token cannot be decoded. -/
def deriveFrostP2pkMessages (encodedToken : String) : Option (List String) :=
  (K.getDecodedToken encodedToken).map fun proofs =>
    proofs.map fun proof => sha256Utf8Hex K proof.secret

theorem sha256Utf8Hex_injective (hsha : Function.Injective K.sha256) :
    Function.Injective (sha256Utf8Hex K) := by
  intro a b h
  exact utf8_injective (hsha (bytesToHex_injective h))

theorem sha256Utf8Hex_ne {K : FrostTools} (hsha : ∀ bytes, K.sha256 bytes ≠ []) (value : String) :
    sha256Utf8Hex K value ≠ "" := by
  intro heq
  exact hsha _ (bytesToHex_injective heq)

/-! ## The lock of a P2PK secret -/

/-- A compressed key without its prefix byte. -/
def toXOnly (pubkey : String) : String :=
  if utf16Length pubkey = 66 ∧ hasKeyPrefix pubkey = true then String.ofList (pubkey.toList.drop 2)
  else pubkey

def sameXOnlyPubkey (candidate expected : String) : Bool :=
  K.toLowerCase (toXOnly candidate) == K.toLowerCase (toXOnly expected)

/-- The local variables of the loop over the tags. -/
structure LockTags where
  lockPubkeys : List String
  nSigs : String

def LockTags.read (acc : LockTags) (tag : Json) : LockTags :=
  match tagStrings? tag with
  | none | some [] => acc
  | some (name :: values) =>
    { lockPubkeys := if name = "pubkeys" then acc.lockPubkeys ++ values else acc.lockPubkeys
      nSigs := if name = "n_sigs" then values.head?.getD acc.nSigs else acc.nSigs }

/-- `body.tags` when it is an array. -/
def tagsOf (body : Json) : List Json :=
  match body.get? "tags" with
  | some (.arr tags) => tags
  | _ => []

def readLock (body : Json) : LockTags :=
  (tagsOf body).foldl LockTags.read
    { lockPubkeys := (body.string? "data").toList, nSigs := "" }

def p2pkSecretRequiresGroup (secretJson groupPubkey : String) : Bool :=
  match Json.parse K.text secretJson with
  | some (.arr (.str "P2PK" :: body :: _)) =>
    if body.isObject then
      (readLock body).nSigs == "2" &&
        (readLock body).lockPubkeys.any fun pubkey => sameXOnlyPubkey K pubkey groupPubkey
    else false
  | _ => false

/-- Every proof is locked so, and there is one. -/
def tokenMatchesFrostP2pkLock (encodedToken groupPubkey : String) : Bool :=
  match K.getDecodedToken encodedToken with
  | none => false
  | some proofs =>
    !proofs.isEmpty && proofs.all fun proof => p2pkSecretRequiresGroup K proof.secret groupPubkey

/-! ## What the tags say -/

/-- The secret's body names the key: as its `data`, or in a `pubkeys` tag. -/
def Lists (body : Json) (key : String) : Prop :=
  body.string? "data" = some key ∨
    ∃ tag ∈ tagsOf body, ∃ keys, tagStrings? tag = some ("pubkeys" :: keys) ∧ key ∈ keys

def GivesNSigs (tag : Json) (n : String) : Prop :=
  ∃ rest, tagStrings? tag = some ("n_sigs" :: n :: rest)

/-- The last tag that gives a number of signatures gives `n`. -/
def StatesNSigs (body : Json) (n : String) : Prop :=
  ∃ before tag after, tagsOf body = before ++ tag :: after ∧ GivesNSigs tag n ∧
    ∀ other ∈ after, ∀ m, ¬GivesNSigs other m

/-- A P2PK secret that lists the group key and asks for two signatures. -/
def RequiresGroup (secretJson groupPubkey : String) : Prop :=
  ∃ body rest, Json.parse K.text secretJson = some (.arr (.str "P2PK" :: body :: rest)) ∧
    StatesNSigs body "2" ∧ ∃ key, Lists body key ∧ sameXOnlyPubkey K key groupPubkey = true

variable {acc : LockTags} {key groupPubkey : String} {tag body : Json}
  {requirement : VerificationRequirement}

theorem mem_lockPubkeys_read :
    key ∈ (acc.read tag).lockPubkeys ↔
      key ∈ acc.lockPubkeys ∨ ∃ keys, tagStrings? tag = some ("pubkeys" :: keys) ∧ key ∈ keys := by
  unfold LockTags.read
  split
  next h => simp [h]
  next h => simp [h]
  next name values h =>
    by_cases hname : name = "pubkeys"
    · simp [h, hname]
    · simp [h, hname]

theorem mem_lockPubkeys_foldl {key : String} : ∀ (tags : List Json) (acc : LockTags),
    key ∈ (tags.foldl LockTags.read acc).lockPubkeys ↔
      key ∈ acc.lockPubkeys ∨
        ∃ tag ∈ tags, ∃ keys, tagStrings? tag = some ("pubkeys" :: keys) ∧ key ∈ keys
  | [], acc => by simp
  | tag :: tags, acc => by
    rw [List.foldl_cons, mem_lockPubkeys_foldl tags, mem_lockPubkeys_read, or_assoc]
    simp only [List.mem_cons, exists_eq_or_imp]

theorem mem_lockPubkeys_readLock :
    key ∈ (readLock body).lockPubkeys ↔ Lists body key := by
  rw [readLock, mem_lockPubkeys_foldl, Option.mem_toList]
  rfl

theorem nSigs_read_of_gives {n : String} (h : GivesNSigs tag n) :
    (acc.read tag).nSigs = n := by
  obtain ⟨rest, hrest⟩ := h
  simp [LockTags.read, hrest]

theorem nSigs_read_of_not (h : ∀ n, ¬GivesNSigs tag n) :
    (acc.read tag).nSigs = acc.nSigs := by
  unfold LockTags.read
  split
  next => rfl
  next => rfl
  next name values htag =>
    by_cases hname : name = "n_sigs"
    · cases values with
      | nil => simp [hname]
      | cons n rest => exact absurd ⟨rest, by rw [htag, hname]⟩ (h n)
    · simp [hname]

/-- Later tags overwrite earlier ones, so the loop ends with the last number given. -/
theorem nSigs_foldl {n : String} : ∀ (tags : List Json) (acc : LockTags),
    (tags.foldl LockTags.read acc).nSigs = n ↔
      (∃ before tag after, tags = before ++ tag :: after ∧ GivesNSigs tag n ∧
        ∀ other ∈ after, ∀ m, ¬GivesNSigs other m) ∨
      (acc.nSigs = n ∧ ∀ tag ∈ tags, ∀ m, ¬GivesNSigs tag m)
  | [], acc => by simp
  | tag :: tags, acc => by
    rw [List.foldl_cons, nSigs_foldl tags]
    constructor
    · rintro (⟨before, last, after, rfl, hlast, hafter⟩ | ⟨hacc, hnone⟩)
      · exact .inl ⟨tag :: before, last, after, rfl, hlast, hafter⟩
      · by_cases htag : ∃ m, GivesNSigs tag m
        · obtain ⟨m, hm⟩ := htag
          rw [nSigs_read_of_gives hm] at hacc
          exact .inl ⟨[], tag, tags, rfl, hacc ▸ hm, hnone⟩
        · rw [nSigs_read_of_not (not_exists.mp htag)] at hacc
          exact .inr ⟨hacc, List.forall_mem_cons.mpr ⟨not_exists.mp htag, hnone⟩⟩
    · rintro (⟨before, last, after, heq, hlast, hafter⟩ | ⟨hacc, hnone⟩)
      · cases before with
        | nil =>
          obtain ⟨rfl, rfl⟩ := List.cons.inj heq
          exact .inr ⟨nSigs_read_of_gives hlast, hafter⟩
        | cons first before =>
          obtain ⟨rfl, rfl⟩ := List.cons.inj heq
          exact .inl ⟨before, last, after, rfl, hlast, hafter⟩
      · obtain ⟨htag, hrest⟩ := List.forall_mem_cons.mp hnone
        exact .inr ⟨(nSigs_read_of_not htag).trans hacc, hrest⟩

theorem nSigs_readLock : (readLock body).nSigs = "2" ↔ StatesNSigs body "2" := by
  rw [readLock, nSigs_foldl]
  constructor
  · rintro (h | ⟨hempty, -⟩)
    · exact h
    · simp at hempty
  · exact .inl

theorem isObject_of_lists (h : Lists body key) :
    body.isObject = true := by
  cases body with
  | obj members => rfl
  | arr elems => rfl
  | _ => simp [Lists, Json.string?, Json.get?, tagsOf] at h

variable {K}

/-- The loop over the tags finds exactly that. -/
theorem p2pkSecretRequiresGroup_iff {secretJson : String} :
    p2pkSecretRequiresGroup K secretJson groupPubkey = true ↔
      RequiresGroup K secretJson groupPubkey := by
  unfold p2pkSecretRequiresGroup RequiresGroup
  split
  next body rest hparse =>
    by_cases hobject : body.isObject = true
    · rw [if_pos hobject, Bool.and_eq_true, beq_iff_eq, nSigs_readLock, List.any_eq_true]
      simp only [mem_lockPubkeys_readLock, hparse, Option.some.injEq, Json.arr.injEq,
        List.cons.injEq, true_and]
      constructor
      · rintro ⟨hn, hkey⟩
        exact ⟨body, rest, ⟨rfl, rfl⟩, hn, hkey⟩
      · rintro ⟨_, _, ⟨rfl, -⟩, hn, hkey⟩
        exact ⟨hn, hkey⟩
    · rw [if_neg hobject]
      constructor
      · intro h
        cases h
      · rintro ⟨body', rest', hparse', -, key, hkey, -⟩
        rw [hparse] at hparse'
        injection hparse' with heq
        injection heq with heq
        injection heq with _ heq
        injection heq with heq
        exact absurd (isObject_of_lists (heq ▸ hkey)) hobject
  next hnone =>
    constructor
    · intro h
      cases h
    · rintro ⟨body, rest, hparse, -⟩
      exact absurd hparse (hnone body rest)

/-- Every proof of the decoded token is locked to the group, and there is one. -/
theorem tokenMatchesFrostP2pkLock_iff {encodedToken : String} :
    tokenMatchesFrostP2pkLock K encodedToken groupPubkey = true ↔
      ∃ proofs, K.getDecodedToken encodedToken = some proofs ∧ proofs ≠ [] ∧
        ∀ proof ∈ proofs, RequiresGroup K proof.secret groupPubkey := by
  unfold tokenMatchesFrostP2pkLock
  cases hdecoded : K.getDecodedToken encodedToken with
  | none => simp
  | some proofs =>
    simp only [Bool.and_eq_true, Bool.not_eq_true', List.isEmpty_eq_false_iff, List.all_eq_true,
      p2pkSecretRequiresGroup_iff, Option.some.injEq, exists_eq_left']

/-! ## The allow-list of a peer -/

variable (K)

/-- The message has to be derived from the requirement, or from a proof of its token. -/
def isAllowedSigningMessage (message : String) (requirement : VerificationRequirement)
    (escrowToken : Option String) (groupPubkey : String) : Bool :=
  if message = deriveFrostSigningMessage K requirement.id then true
  else
    match escrowToken, requirement.escrowTokenHash with
    | some token, some hash =>
      if token = "" ∨ hash = "" then false
      else if deriveFrostEscrowTokenHash K token ≠ hash then false
      else if !tokenMatchesFrostP2pkLock K token groupPubkey then false
      else
        match deriveFrostP2pkMessages K token with
        | some messages => messages.contains message
        | none => false
    | _, _ => false

/-- The message spends a proof of the token, and the requirement names the token by its hash. -/
structure SpendsToken (message : String) (requirement : VerificationRequirement)
    (token groupPubkey : String) (proofs : List Proof) : Prop where
  hash : requirement.escrowTokenHash = some (deriveFrostEscrowTokenHash K token)
  decoded : K.getDecodedToken token = some proofs
  nonempty : proofs ≠ []
  locked : ∀ proof ∈ proofs, RequiresGroup K proof.secret groupPubkey
  message : ∃ proof ∈ proofs, message = sha256Utf8Hex K proof.secret

variable {K}

variable {message : String} {proof : Proof}

theorem isAllowedSigningMessage_of_spends {token : String} {proofs : List Proof}
    (htoken : token ≠ "") (hhash : requirement.escrowTokenHash ≠ some "")
    (h : SpendsToken K message requirement token groupPubkey proofs) :
    isAllowedSigningMessage K message requirement (some token) groupPubkey = true := by
  have hmatches : tokenMatchesFrostP2pkLock K token groupPubkey = true :=
    tokenMatchesFrostP2pkLock_iff.mpr ⟨proofs, h.decoded, h.nonempty, h.locked⟩
  have hmessages : deriveFrostP2pkMessages K token =
      some (proofs.map fun proof => sha256Utf8Hex K proof.secret) := by
    rw [deriveFrostP2pkMessages, h.decoded, Option.map_some]
  obtain ⟨proof, hproof, rfl⟩ := h.message
  rw [h.hash, ne_eq, Option.some.injEq] at hhash
  unfold isAllowedSigningMessage
  simp only [h.hash, htoken, hhash, hmatches, hmessages]
  simp only [or_self, if_false, ne_eq, not_true_eq_false, Bool.not_true, Bool.false_eq_true,
    List.contains_iff_mem, List.mem_map, Bool.if_true_left, Bool.or_eq_true, decide_eq_true_eq]
  exact .inr ⟨proof, hproof, rfl⟩

/-- The allow-list of a peer. -/
theorem isAllowedSigningMessage_iff {escrowToken : Option String} :
    isAllowedSigningMessage K message requirement escrowToken groupPubkey = true ↔
      message = deriveFrostSigningMessage K requirement.id ∨
        ∃ token proofs, escrowToken = some token ∧ token ≠ "" ∧
          requirement.escrowTokenHash ≠ some "" ∧
          SpendsToken K message requirement token groupPubkey proofs := by
  constructor
  · intro h
    unfold isAllowedSigningMessage at h
    by_cases hmessage : message = deriveFrostSigningMessage K requirement.id
    · exact .inl hmessage
    · rw [if_neg hmessage] at h
      split at h
      next token hash hhash =>
        by_cases hempty : token = "" ∨ hash = ""
        · simp [hempty] at h
        rw [if_neg hempty] at h
        by_cases hne : deriveFrostEscrowTokenHash K token ≠ hash
        · simp [hne] at h
        rw [if_neg hne] at h
        by_cases hmatches : tokenMatchesFrostP2pkLock K token groupPubkey = true
        · rw [hmatches] at h
          obtain ⟨proofs, hdecoded, hproofs, hlocked⟩ := tokenMatchesFrostP2pkLock_iff.mp hmatches
          simp only [Bool.not_true, Bool.false_eq_true, if_false, deriveFrostP2pkMessages, hdecoded,
            Option.map_some, List.contains_iff_mem, List.mem_map] at h
          obtain ⟨proof, hproof, hsecret⟩ := h
          obtain ⟨htoken, hhashne⟩ := not_or.mp hempty
          refine .inr ⟨token, proofs, rfl, htoken, ?_, ?_⟩
          · rw [hhash]
            exact fun heq => hhashne (Option.some.inj heq)
          · exact ⟨by rw [hhash, not_not.mp hne], hdecoded, hproofs, hlocked, proof, hproof,
              hsecret.symm⟩
        · simp [hmatches] at h
      next => cases h
  · rintro (rfl | ⟨token, proofs, rfl, htoken, hhash, hspends⟩)
    · simp [isAllowedSigningMessage]
    · exact isAllowedSigningMessage_of_spends htoken hhash hspends

/-! ## Tools for fixed inputs -/

def plainGroup : String := "79be667ef9dcbbac55a06295ce870b07029bfcdb2dce28d959f2815b16f81798"

/-- A secret that is locked to the group. -/
def plainSecret (nonce : String) : String :=
  (Json.arr [.str "P2PK", .obj [("nonce", .str nonce), ("data", .str plainGroup),
    ("tags", .arr [.arr [.str "n_sigs", .str "2"]])]]).stringify .safeIntegers

def plainToken : String :=
  "cashuAeyJ0b2tlbiI6W3sibWludCI6Imh0dHBzOi8vbS50ZXN0IiwicHJvb2ZzIjpbeyJpZCI6IjAwYWQyNjhjNG" ++
  "QxZjU4MjYiLCJhbW91bnQiOjEsInNlY3JldCI6IltcIlAyUEtcIix7XCJub25jZVwiOlwiMVwiLFwiZGF0YVwiOl" ++
  "wiNzliZTY2N2VmOWRjYmJhYzU1YTA2Mjk1Y2U4NzBiMDcwMjliZmNkYjJkY2UyOGQ5NTlmMjgxNWIxNmY4MTc5OF" ++
  "wiLFwidGFnc1wiOltbXCJuX3NpZ3NcIixcIjJcIl1dfV0iLCJDIjoiMDIifSx7ImlkIjoiMDBhZDI2OGM0ZDFmNT" ++
  "gyNiIsImFtb3VudCI6Miwic2VjcmV0IjoiW1wiUDJQS1wiLHtcIm5vbmNlXCI6XCIyXCIsXCJkYXRhXCI6XCI3OW" ++
  "JlNjY3ZWY5ZGNiYmFjNTVhMDYyOTVjZTg3MGIwNzAyOWJmY2RiMmRjZTI4ZDk1OWYyODE1YjE2ZjgxNzk4XCIsXC" ++
  "J0YWdzXCI6W1tcIm5fc2lnc1wiLFwiMlwiXV19XSIsIkMiOiIwMiJ9XX1dLCJ1bml0Ijoic2F0In0"

def plainDigests : List (String × String) :=
  [("anchr:sign:q", "ae7bb1ed67879fc04c40025f2769094d399109abe4b7350126b5c4fda367ee31"),
    (plainSecret "1", "7e4ea7ea4e7b4707bd08d7025f329e60370665f8f3bc617b422a85bb7664a50e"),
    (plainSecret "2", "a2a1f0449d7e28db69401239e1b1ffbd430ad6db572a239220050f77cdcf4a54"),
    (plainToken, "5cf7d02208af0147c882a6cb03a84f775f0da67786b7162f33e8f1370560dd3f"),
    ("cA==", "cabf5ce85ab198d3fb1e44d41d82c9be6da7cf2f7ac94b6cbee59229e819057f")]

/-- Two proofs. -/
def plainProofs : List Proof := [⟨.ofInt 1, plainSecret "1"⟩, ⟨.ofInt 2, plainSecret "2"⟩]

/-- The libraries, which decode one token. -/
def plainTools : FrostTools where
  text := .safeIntegers
  sha256 := digestTable plainDigests
  getDecodedToken token := if token = plainToken then some plainProofs else none
  toLowerCase s := String.ofList (s.toList.map Char.toLower)

theorem plainToken_ne : plainToken ≠ "" := by
  intro h
  -- the last part of the text is not empty
  have hlast := (String.append_eq_empty_iff.mp h).2
  exact absurd hlast (by decide)

theorem getDecodedToken_plainToken : plainTools.getDecodedToken plainToken = some plainProofs := by
  simp only [plainTools, if_true]

theorem plainTools_sha256_injective : Function.Injective plainTools.sha256 :=
  digestTable_injective (by decide) (by decide)

theorem plainTools_sha256_ne_nil (bytes : List UInt8) : plainTools.sha256 bytes ≠ [] := by
  have hdigests : ∀ entry ∈ plainDigests, bytesOfHex entry.2 ≠ [] := by decide
  show digestTable plainDigests bytes ≠ []
  unfold digestTable
  split
  next entry hentry => exact hdigests entry (List.mem_of_find?_eq_some hentry)
  next => exact List.cons_ne_nil _ _

theorem parse_plainSecret (nonce : String) :
    Json.parse plainTools.text (plainSecret nonce) = some (.arr [.str "P2PK",
      .obj [("nonce", .str nonce), ("data", .str plainGroup),
        ("tags", .arr [.arr [.str "n_sigs", .str "2"]])]]) := by
  apply Json.parse_stringify
  simp [Json.Doubles, Json.DoublesElems, Json.DoublesMembers]

theorem requiresGroup_plainSecret (nonce : String) :
    RequiresGroup plainTools (plainSecret nonce) plainGroup := by
  refine ⟨_, _, parse_plainSecret nonce, ⟨[], _, [], rfl, ⟨[], rfl⟩, by simp⟩, plainGroup, .inl rfl,
    ?_⟩
  exact beq_self_eq_true _

theorem spendsToken_plain
    (hhash : requirement.escrowTokenHash = some (deriveFrostEscrowTokenHash plainTools plainToken))
    (hproof : proof ∈ plainProofs) :
    SpendsToken plainTools (sha256Utf8Hex plainTools proof.secret) requirement plainToken plainGroup
      plainProofs where
  hash := hhash
  decoded := getDecodedToken_plainToken
  nonempty := List.cons_ne_nil _ _
  locked other hother := by
    simp only [plainProofs, List.mem_cons, List.not_mem_nil, or_false] at hother
    rcases hother with rfl | rfl
    · exact requiresGroup_plainSecret "1"
    · exact requiresGroup_plainSecret "2"
  message := ⟨proof, hproof, rfl⟩

theorem isAllowedSigningMessage_plain
    (hhash : requirement.escrowTokenHash = some (deriveFrostEscrowTokenHash plainTools plainToken))
    (hproof : proof ∈ plainProofs) :
    isAllowedSigningMessage plainTools (sha256Utf8Hex plainTools proof.secret) requirement
      (some plainToken) plainGroup = true := by
  refine isAllowedSigningMessage_of_spends plainToken_ne ?_ (spendsToken_plain hhash hproof)
  rw [hhash]
  exact fun heq => sha256Utf8Hex_ne plainTools_sha256_ne_nil plainToken (Option.some.inj heq)

end Anchr.Frost
