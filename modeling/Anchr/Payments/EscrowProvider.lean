import Anchr.Frost.SigningMessage

/-!
# Lock checks of the escrow providers

`verifyLock` of `payments/cashu/cashu-escrow-provider.ts` and of
`payments/cashu/frost-escrow-provider.ts`. Both look up the token of a reference, decode it, and go
through its proofs until one is refused.
-/

namespace Anchr.Payments

open Infra Frost

/-- The texts of errors that the library throws. -/
structure ErrorTexts where
  /-- What `getDecodedToken` throws. -/
  decode : String → String
  /-- What `JSON.parse` throws. -/
  parse : String → String

/-- What `verifyLock` comes to. -/
inductive LockCheck where
  | ok
  | refused (message : String)
  | threw

/-- The first result of a loop over the proofs that is not `ok`. -/
def checkEach (check : Proof → LockCheck) : List Proof → LockCheck
  | [] => .ok
  | proof :: proofs =>
    match check proof with
    | .ok => checkEach check proofs
    | .refused message => .refused message
    | .threw => .threw

theorem checkEach_ok {check : Proof → LockCheck} : ∀ {proofs : List Proof},
    checkEach check proofs = .ok ↔ ∀ proof ∈ proofs, check proof = .ok
  | [] => by simp [checkEach]
  | proof :: proofs => by
    rw [List.forall_mem_cons, checkEach]
    cases h : check proof with
    | ok => simp [checkEach_ok]
    | refused message => simp
    | threw => simp

theorem ite_refused_ok {c : Prop} [Decidable c] {message : String} {x : LockCheck} :
    (if c then .refused message else x) = LockCheck.ok ↔ ¬c ∧ x = .ok := by
  by_cases h : c <;> simp [h]

variable (K : FrostTools) (E : ErrorTexts)

/-! ## HTLC -/

namespace CashuEscrow

/-- What `tags?.find((t) => t[0] === "pubkeys")` finds. -/
inductive PubkeysTag where
  | none
  | found (lockedKeys : List Json)
  /-- An element is `null`, or `tags` is no array, or what is found has no `slice`. -/
  | threw

def findPubkeys : List Json → PubkeysTag
  | [] => .none
  | .null :: _ => .threw
  | .arr (.str name :: keys) :: tags => if name = "pubkeys" then .found keys else findPubkeys tags
  | .obj members :: tags =>
    -- the object is found by its member `0`, and is no array
    if (Json.obj members).string? "0" = some "pubkeys" then .threw else findPubkeys tags
  | _ :: tags => findPubkeys tags

def pubkeysTag : Option Json → PubkeysTag
  | none | some .null => .none
  | some (.arr tags) => findPubkeys tags
  | some _ => .threw

/-- `provider_pubkey` in compressed form. -/
def providerHex (providerPubkey : String) : String :=
  if hasKeyPrefix providerPubkey then providerPubkey else "02" ++ providerPubkey

def checkProof (paymentHash providerPubkey : String) (proof : Proof) : LockCheck :=
  match Json.parse K.text proof.secret with
  | none => .refused "Proof secret is not valid JSON"
  | some (.arr (.str "HTLC" :: rest)) =>
    let body := rest.head?
    if body.bind (·.string? "data") ≠ some paymentHash then
      .refused "HTLC hash mismatch: token hashlock does not match query"
    else
      match pubkeysTag (body.bind (·.get? "tags")) with
      | .threw => .threw
      | .none => .refused "No pubkeys tag in HTLC proof"
      | .found lockedKeys =>
        if (lockedKeys.filterMap Json.asString?).contains providerPubkey ||
            (lockedKeys.filterMap Json.asString?).contains (providerHex providerPubkey)
        then .ok
        else .refused "HTLC token not locked to selected provider"
  | some _ => .refused "Proof is not an HTLC proof"

/-- `verifyLock`; `tokenMap` holds the token of each reference. -/
def verifyLock (tokenMap : JsMap String String) (escrowRef paymentHash providerPubkey : String) :
    LockCheck :=
  match tokenMap.get? escrowRef with
  | none => .refused "Unknown escrow reference"
  | some token =>
    match K.getDecodedToken token with
    | none => .refused ("Token failed to decode: " ++ E.decode token)
    | some proofs =>
      match checkEach (checkProof K paymentHash providerPubkey) proofs with
      | .ok => if proofs.isEmpty then .refused "Token has no HTLC proofs" else .ok
      | other => other

def Passes (paymentHash providerPubkey : String) (proof : Proof) : Prop :=
  ∃ body rest lockedKeys,
    Json.parse K.text proof.secret = some (.arr (.str "HTLC" :: body :: rest)) ∧
    body.string? "data" = some paymentHash ∧
    pubkeysTag (body.get? "tags") = .found lockedKeys ∧
    (.str providerPubkey ∈ lockedKeys ∨ .str (providerHex providerPubkey) ∈ lockedKeys)

variable {K E}

theorem contains_strings {keys : List Json} {key : String} :
    (keys.filterMap Json.asString?).contains key = true ↔ .str key ∈ keys := by
  rw [List.contains_iff_mem, List.mem_filterMap]
  constructor
  · rintro ⟨v, hv, hkey⟩
    cases v with
    | str s => exact Option.some.inj hkey ▸ hv
    | _ => cases hkey
  · exact fun h => ⟨_, h, rfl⟩

variable {providerPubkey paymentHash : String}

theorem checkProof_ok {proof : Proof} :
    checkProof K paymentHash providerPubkey proof = .ok ↔
      Passes K paymentHash providerPubkey proof := by
  unfold checkProof Passes
  constructor
  · intro h
    split at h
    next => cases h
    next rest hparse =>
      rw [ite_refused_ok, not_ne_iff] at h
      obtain ⟨hdata, h⟩ := h
      split at h
      next => cases h
      next => cases h
      next lockedKeys hkeys =>
        by_cases hlisted : ((lockedKeys.filterMap Json.asString?).contains providerPubkey ||
            (lockedKeys.filterMap Json.asString?).contains (providerHex providerPubkey)) = true
        · cases rest with
          | nil => cases hdata
          | cons body rest =>
            rw [Bool.or_eq_true, contains_strings, contains_strings] at hlisted
            exact ⟨body, rest, lockedKeys, hparse, hdata, hkeys, hlisted⟩
        · rw [if_neg hlisted] at h
          cases h
    next => cases h
  · rintro ⟨body, rest, lockedKeys, hparse, hdata, hkeys, hlisted⟩
    rw [← contains_strings, ← contains_strings, ← Bool.or_eq_true] at hlisted
    simp only [hparse, List.head?_cons, Option.bind_some, hdata, hkeys, hlisted, ne_eq,
      not_true_eq_false, if_false, if_true]

theorem verifyLock_ok {tokenMap : JsMap String String} {escrowRef : String} :
    verifyLock K E tokenMap escrowRef paymentHash providerPubkey = .ok ↔
      ∃ token proofs, tokenMap.get? escrowRef = some token ∧
        K.getDecodedToken token = some proofs ∧ proofs ≠ [] ∧
        ∀ proof ∈ proofs, Passes K paymentHash providerPubkey proof := by
  unfold verifyLock
  cases htoken : tokenMap.get? escrowRef with
  | none => simp
  | some token =>
    cases hproofs : K.getDecodedToken token with
    | none => simp [hproofs]
    | some proofs =>
      simp only [Option.some.injEq, exists_and_left, exists_eq_left', hproofs]
      simp only [← checkProof_ok, ← checkEach_ok]
      cases hcheck : checkEach (checkProof K paymentHash providerPubkey) proofs with
      | ok => cases proofs <;> simp
      | refused message => simp
      | threw => simp

end CashuEscrow

/-! ## FROST -/

namespace FrostEscrow

/-- The tags that are arrays of strings. -/
def readStringTags : Option Json → List (List String)
  | some (.arr elems) => elems.filterMap tagStrings?
  | _ => []

def findTag (tags : List (List String)) (name : String) : Option (List String) :=
  tags.find? fun tag => tag.head? = some name

/-- `data`, and the keys of the first `pubkeys` tag. -/
def lockPubkeys (body : Json) : List String :=
  (body.string? "data").toList ++
    ((findTag (readStringTags (body.get? "tags")) "pubkeys").map (·.drop 1)).getD []

def checkProof (groupPubkey providerPubkey : String) (proof : Proof) : LockCheck :=
  match Json.parse K.text proof.secret with
  | none => .refused ("P2PK verification failed: " ++ E.parse proof.secret)
  | some (.arr (.str "P2PK" :: rest)) =>
    match rest.head?.filter Json.isObject with
    | none => .refused "Malformed P2PK proof"
    | some body =>
      if (lockPubkeys body).isEmpty then .refused "No lock pubkeys in P2PK proof"
      else if (findTag (readStringTags (body.get? "tags")) "n_sigs").bind (·[1]?) ≠ some "2" then
        .refused "FROST P2PK lock must require 2 signatures"
      else if !(lockPubkeys body).any (fun pk => sameXOnlyPubkey K pk providerPubkey) then
        .refused "Provider pubkey not in P2PK lock"
      else if !(lockPubkeys body).any (fun pk => sameXOnlyPubkey K pk groupPubkey) then
        .refused "Group pubkey not in P2PK lock"
      else .ok
  | some _ => .refused "Not a P2PK proof"

/-- `verifyLock`; the payment hash is not looked at. -/
def verifyLock (groupPubkey : String) (tokenMap : JsMap String String)
    (escrowRef _paymentHash providerPubkey : String) : LockCheck :=
  match tokenMap.get? escrowRef with
  | none => .refused "Unknown escrow reference"
  | some token =>
    match K.getDecodedToken token with
    | none => .refused ("P2PK verification failed: " ++ E.decode token)
    | some proofs => checkEach (checkProof K E groupPubkey providerPubkey) proofs

def Passes (groupPubkey providerPubkey : String) (proof : Proof) : Prop :=
  ∃ body rest, Json.parse K.text proof.secret = some (.arr (.str "P2PK" :: body :: rest)) ∧
    (∃ more, findTag (readStringTags (body.get? "tags")) "n_sigs" = some ("n_sigs" :: "2" :: more)) ∧
    (∃ key ∈ lockPubkeys body, sameXOnlyPubkey K key providerPubkey = true) ∧
    ∃ key ∈ lockPubkeys body, sameXOnlyPubkey K key groupPubkey = true

variable {K E}

variable {tags : List (List String)} {name providerPubkey groupPubkey : String} {tag : List String}

theorem findTag_eq_some (h : findTag tags name = some tag) :
    ∃ values, tag = name :: values ∧ tag ∈ tags := by
  have hhead := List.find?_some h
  cases tag with
  | nil => simp at hhead
  | cons first values =>
    obtain rfl : first = name := by simpa using hhead
    exact ⟨values, rfl, List.mem_of_find?_eq_some h⟩

theorem findTag_value {value : String} :
    (findTag tags name).bind (·[1]?) = some value ↔
      ∃ more, findTag tags name = some (name :: value :: more) := by
  cases hfind : findTag tags name with
  | none => simp
  | some tag =>
    obtain ⟨values, rfl, -⟩ := findTag_eq_some hfind
    cases values <;> simp

theorem isObject_of_findTag {body : Json}
    (h : findTag (readStringTags (body.get? "tags")) name = some tag) : body.isObject = true := by
  cases body with
  | obj members => rfl
  | _ => simp [Json.get?, readStringTags, findTag] at h

theorem checkProof_ok {proof : Proof} :
    checkProof K E groupPubkey providerPubkey proof = .ok ↔
      Passes K groupPubkey providerPubkey proof := by
  unfold checkProof Passes
  constructor
  · intro h
    split at h
    next => cases h
    next rest hparse =>
      split at h
      next => cases h
      next body hbody =>
        obtain ⟨hhead, -⟩ := Option.filter_eq_some_iff.mp hbody
        obtain ⟨rest, rfl⟩ := List.head?_eq_some_iff.mp hhead
        simp only [ite_refused_ok, ne_eq, not_not, Bool.not_eq_true, Bool.not_eq_false',
          List.any_eq_true] at h
        obtain ⟨-, hsigs, hprovider, hgroup, -⟩ := h
        exact ⟨body, rest, hparse, findTag_value.mp hsigs, hprovider, hgroup⟩
    next => cases h
  · rintro ⟨body, rest, hparse, ⟨more, hsigs⟩, hprovider, hgroup⟩
    have hsome : (lockPubkeys body).isEmpty = false := by
      obtain ⟨key, hkey, -⟩ := hgroup
      exact List.isEmpty_eq_false_iff.mpr (List.ne_nil_of_mem hkey)
    have hobject := isObject_of_findTag hsigs
    have hvalue := findTag_value.mpr ⟨more, hsigs⟩
    rw [← List.any_eq_true] at hprovider hgroup
    simp only [hparse, List.head?_cons, Option.filter_some, hobject, if_true, hsome, hvalue,
      hprovider, hgroup, Bool.false_eq_true, if_false, ne_eq, not_true_eq_false, Bool.not_true]

/-- What an accepted token has passed. There may be no proof at all. -/
theorem verifyLock_ok {tokenMap : JsMap String String} {escrowRef paymentHash : String} :
    verifyLock K E groupPubkey tokenMap escrowRef paymentHash providerPubkey = .ok ↔
      ∃ token proofs, tokenMap.get? escrowRef = some token ∧
        K.getDecodedToken token = some proofs ∧
        ∀ proof ∈ proofs, Passes K groupPubkey providerPubkey proof := by
  unfold verifyLock
  cases htoken : tokenMap.get? escrowRef with
  | none => simp
  | some token =>
    cases hproofs : K.getDecodedToken token with
    | none => simp [hproofs]
    | some proofs =>
      simp only [Option.some.injEq, exists_and_left, exists_eq_left', hproofs, checkEach_ok,
        checkProof_ok]

end FrostEscrow

end Anchr.Payments
