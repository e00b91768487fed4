import Anchr.Payments.EscrowHolds
import Anchr.Payments.Properties.BoundLock

/-!
# The terms of a bound hold

The FROST provider has kept the terms of the call that created the hold. The HTLC provider reads
them out of the proofs of the hold, which say nothing about them; the refund key it finds is empty,
and the builder refuses it.
-/

namespace Anchr.Payments

open Infra Frost

/-! ## Where a hold comes from -/

def HoldEvent.made : HoldEvent → Option String
  | .held _ _ escrowRef _ => some escrowRef
  | .bound _ _ _ _ _ newRef => some newRef
  | _ => none

section

variable {ν : Type} {kind : String} {M : HoldParams → List Proof → ν → Prop}
  {tr evs : List HoldEvent} {t : HoldTable ν} {e : HoldEvent} {escrowRef : String} {hold : ν}

/-- A hold was created, and `M` relates it to the call, or it comes from binding another one. -/
def Origin (M : HoldParams → List Proof → ν → Prop) (tr : List HoldEvent) (escrowRef : String)
    (hold : ν) : Prop :=
  (∃ call params proofs, .held call params escrowRef proofs ∈ tr ∧ M params proofs hold) ∨
    ∃ call old providerPubkey now options,
      .bound call old providerPubkey now options escrowRef ∈ tr

theorem Origin.mono (h : Origin M tr escrowRef hold) : Origin M (tr ++ evs) escrowRef hold := by
  rcases h with ⟨call, params, proofs, hheld, hM⟩ | ⟨call, old, providerPubkey, now, options, hbound⟩
  · exact .inl ⟨call, params, proofs, List.mem_append_left _ hheld, hM⟩
  · exact .inr ⟨call, old, providerPubkey, now, options, List.mem_append_left _ hbound⟩

/-- References are numbered, never given twice, and every hold has an origin. -/
structure Accounted (kind : String) (M : HoldParams → List Proof → ν → Prop) (tr : List HoldEvent)
    (t : HoldTable ν) : Prop where
  table : TicketTable.Explained HoldEvent.made (fun _ => none) (Origin M) tr t.tokenMap
  numbered : ∀ id ∈ t.tokenMap.issued, ∃ n ≤ t.refCounter, id = kind ++ String.ofList (natChars n)
  once : (tr.filterMap HoldEvent.made).Nodup

theorem Accounted.init : Accounted kind M [] ({} : HoldTable ν) where
  table := .init
  numbered id hid := by cases hid
  once := List.nodup_nil

theorem natChars_injective {m n : Nat}
    (h : kind ++ String.ofList (natChars m) = kind ++ String.ofList (natChars n)) : m = n := by
  have hchars : natChars m = natChars n := by
    simpa [String.toList_append] using congrArg String.toList h
  rw [← digitsValue_natChars m, hchars, digitsValue_natChars]

theorem Accounted.fresh (h : Accounted kind M tr t) : t.nextRef kind ∉ t.tokenMap.issued := by
  intro hissued
  obtain ⟨n, hn, heq⟩ := h.numbered _ hissued
  have hnumber := natChars_injective heq
  omega

theorem Accounted.keep (h : Accounted kind M tr t) (hmade : e.made = none) :
    Accounted kind M (tr ++ [e]) t where
  table := by
    refine h.table.keep Origin.mono ?_ (fun _ _ => rfl)
    intro e' he'
    obtain rfl := List.mem_singleton.mp he'
    exact hmade
  numbered := h.numbered
  once := by
    rw [List.filterMap_append, List.filterMap_cons_none hmade]
    simpa using h.once

theorem Accounted.issue (h : Accounted kind M tr t) (hmade : e.made = some (t.nextRef kind))
    (horigin : Origin M (tr ++ [e]) (t.nextRef kind) hold) :
    Accounted kind M (tr ++ [e]) (t.issue kind hold) where
  table := by
    refine h.table.store Origin.mono h.fresh horigin ?_ (fun _ _ => rfl)
    intro e' he' id hid
    obtain rfl := List.mem_singleton.mp he'
    rw [hmade] at hid
    exact (Option.some.inj hid).symm
  numbered id hid := by
    rcases List.mem_cons.mp hid with rfl | hid
    · exact ⟨t.refCounter + 1, Nat.le_refl _, rfl⟩
    · obtain ⟨n, hn, heq⟩ := h.numbered id hid
      exact ⟨n, Nat.le_succ_of_le hn, heq⟩
  once := by
    rw [List.filterMap_append, List.filterMap_cons_some hmade]
    refine List.Nodup.append h.once (by simp) ?_
    -- the new reference is not one of those made before
    intro id hid hnew
    obtain rfl : id = t.nextRef kind := by simpa using hnew
    obtain ⟨e', he', hmade'⟩ := List.mem_filterMap.mp hid
    exact h.fresh (h.table.made e' he' _ hmade')

theorem Accounted.delete (h : Accounted kind M tr t) (escrowRef : String) :
    Accounted kind M tr (t.delete escrowRef) where
  table := h.table.forget escrowRef
  numbered := h.numbered
  once := h.once

theorem Accounted.held (h : Accounted kind M tr t) (horigin : Origin M tr escrowRef hold)
    {call : Nat} {params : HoldParams} {proofs : List Proof}
    (hheld : .held call params escrowRef proofs ∈ tr) : M params proofs hold := by
  rcases horigin with ⟨call', params', proofs', hheld', hM⟩ | ⟨_, _, _, _, _, hbound⟩
  · cases eq_of_made h.once hheld hheld' rfl rfl
    exact hM
  · cases eq_of_made h.once hheld hbound rfl rfl

end

def BoundAs (R : HoldParams → List Proof → String → JsNumber → P2PKOptions → Prop)
    (tr : List HoldEvent) : HoldEvent → Prop
  | .bound _ escrowRef providerPubkey now options _ =>
    ∀ call params proofs, .held call params escrowRef proofs ∈ tr →
      R params proofs providerPubkey now options
  | _ => True

section

variable {ν π : Type} {kind : String} {M : HoldParams → List Proof → ν → Prop}
  {E : List HoldEvent → Nat → π → Prop} {tr : List HoldEvent} {t : HoldTable ν} {call : Nat}
  {R : HoldParams → List Proof → String → JsNumber → P2PKOptions → Prop}

theorem explained_suspended (h : Accounted kind M tr t) {p : π} (hp : E tr call p) :
    ({ shared := t, pending := some p } : CallTurn (HoldTable ν) π HoldEvent).Explained
      (Accounted kind M) E (BoundAs R) tr call where
  events := trivial
  shared := by
    rw [List.append_nil]
    exact h
  pending q hq := by
    cases hq
    rw [List.append_nil]
    exact hp

theorem explained_ended {t' : HoldTable ν} {e : HoldEvent} (h : Accounted kind M tr t')
    (hmade : e.made = none) :
    ({ shared := t', events := [e] } : CallTurn (HoldTable ν) π HoldEvent).Explained
      (Accounted kind M) E (BoundAs R) tr call where
  events := by
    refine ⟨?_, trivial⟩
    cases e with
    | bound _ _ _ _ _ _ => cases hmade
    | _ => trivial
  shared := h.keep hmade
  pending q hq := by cases hq

variable {hold : ν}

theorem explained_held (h : Accounted kind M tr t) {params : HoldParams} {proofs : List Proof}
    (hM : M params proofs hold) :
    ({ shared := t.issue kind hold, events := [.held call params (t.nextRef kind) proofs] } :
      CallTurn (HoldTable ν) π HoldEvent).Explained (Accounted kind M) E (BoundAs R) tr call where
  events := ⟨trivial, trivial⟩
  shared := h.issue rfl (.inl ⟨call, params, proofs, by simp, hM⟩)
  pending q hq := by cases hq

theorem explained_bound (h : Accounted kind M tr t) {escrowRef providerPubkey : String}
    {now : JsNumber} {options : P2PKOptions} {new : ν} (horigin : Origin M tr escrowRef hold)
    (hR : ∀ params proofs, M params proofs hold → R params proofs providerPubkey now options) :
    ({ shared := (t.issue kind new).delete escrowRef
       events := [.bound call escrowRef providerPubkey now options (t.nextRef kind)] } :
      CallTurn (HoldTable ν) π HoldEvent).Explained (Accounted kind M) E (BoundAs R) tr call where
  events := by
    refine ⟨?_, trivial⟩
    intro call' params proofs hheld
    exact hR params proofs (h.held horigin hheld)
  shared := by
    refine (h.issue rfl (.inr ⟨call, escrowRef, providerPubkey, now, options, ?_⟩)).delete escrowRef
    simp
  pending q hq := by cases hq

end

variable {H : HoldTools}

/-! ## HTLC -/

namespace CashuEscrow

def Holds (H : HoldTools) (_ : HoldParams) (proofs : List Proof) (hold : Hold) : Prop :=
  ∃ mintUrl, hold.token = H.encodeProofs mintUrl proofs

def planned (H : HoldTools) (hold : Hold) (providerPubkey : String) (now : JsNumber) :
    Option P2PKOptions :=
  (H.getDecodedToken hold.token).bind fun decoded =>
    (bindTerms H decoded providerPubkey now).bind (finalOptions H)

def Binds (H : HoldTools) (tr : List HoldEvent) (_ : Nat) : Pending → Prop
  | .bindWallet escrowRef providerPubkey now _ terms =>
    ∃ hold, Origin (Holds H) tr escrowRef hold ∧
      planned H hold providerPubkey now = terms.bind (finalOptions H)
  | .bindSend escrowRef providerPubkey now options _ =>
    ∃ hold, Origin (Holds H) tr escrowRef hold ∧
      planned H hold providerPubkey now = some options
  | _ => True

def ReadFrom (H : HoldTools) (_ : HoldParams) (proofs : List Proof) (providerPubkey : String)
    (now : JsNumber) (options : P2PKOptions) : Prop :=
  ∃ mintUrl decoded, H.getDecodedToken (H.encodeProofs mintUrl proofs) = some decoded ∧
    (bindTerms H decoded providerPubkey now).bind (finalOptions H) = some options

theorem readFrom_of_planned {hold : Hold} {providerPubkey : String} {now : JsNumber}
    {options : P2PKOptions} (h : planned H hold providerPubkey now = some options)
    (params : HoldParams) (proofs : List Proof) (hholds : Holds H params proofs hold) :
    ReadFrom H params proofs providerPubkey now options := by
  obtain ⟨mintUrl, htoken⟩ := hholds
  obtain ⟨decoded, hdecoded, hoptions⟩ := Option.bind_eq_some_iff.mp h
  rw [htoken] at hdecoded
  exact ⟨mintUrl, decoded, hdecoded, hoptions⟩

theorem explains (H : HoldTools) (hasResolver : Bool) :
    (service H hasResolver).Explains (fun _ => True) (Accounted "cashu_htlc_" (Holds H)) (Binds H)
      (BoundAs (ReadFrom H)) where
  mono := by
    intro tr evs call p h
    cases p with
    | bindWallet escrowRef providerPubkey now proofs terms =>
      obtain ⟨hold, horigin, hplanned⟩ := h
      exact ⟨hold, horigin.mono, hplanned⟩
    | bindSend escrowRef providerPubkey now options mintUrl =>
      obtain ⟨hold, horigin, hplanned⟩ := h
      exact ⟨hold, horigin.mono, hplanned⟩
    | _ => trivial
  begin := by
    intro tr t h call a _
    show (begin H hasResolver t call a).Explained _ _ _ tr call
    cases a with
    | createHold params =>
      rw [begin]
      split
      next => exact explained_suspended h trivial
      next => exact explained_ended h rfl
    | cancel escrowRef => exact explained_ended (h.delete escrowRef) rfl
    | bindProvider escrowRef providerPubkey now =>
      rw [begin]
      split
      next => exact explained_ended h rfl
      next hold hget =>
        split
        next => exact explained_ended h rfl
        next decoded hdecoded =>
          refine explained_suspended h ⟨hold, h.table.origin _ _ hget, ?_⟩
          rw [planned, hdecoded]
          rfl
  resume := by
    intro tr t call p b turn h hp hresume
    replace hresume : resume H t call p b = some turn := hresume
    -- one case for each line of `resume`
    unfold resume at hresume
    split at hresume <;> try obtain rfl := Option.some.inj hresume
    -- most answers end the call and leave the holds alone
    any_goals exact explained_ended h rfl
    next => exact explained_suspended h trivial
    next => exact explained_suspended h trivial
    next => exact explained_held h ⟨_, rfl⟩
    next =>
      obtain ⟨hold, horigin, hplanned⟩ := hp
      unfold bindWith
      split
      next => exact explained_ended h rfl
      next options hoptions =>
        split
        next => exact explained_ended h rfl
        next => exact explained_suspended h ⟨hold, horigin, hplanned.trans hoptions⟩
    next =>
      obtain ⟨hold, horigin, hplanned⟩ := hp
      exact explained_bound h horigin (readFrom_of_planned hplanned)
    next => cases hresume

end CashuEscrow

/-! ## FROST -/

namespace FrostEscrow

def Holds (params : HoldParams) (_ : List Proof) (hold : Hold) : Prop :=
  hold.customerRefundPubkey = params.customerPubkey ∧ hold.locktimeSeconds = params.expiry

def Binds (H : HoldTools) (groupPubkey : String) (tr : List HoldEvent) (_ : Nat) : Pending → Prop
  | .bindWallet escrowRef _ _ hold => Origin Holds tr escrowRef hold
  | .bindSend escrowRef providerPubkey _ hold options _ => Origin Holds tr escrowRef hold ∧
      buildFrostP2PKOptions H providerPubkey groupPubkey hold.customerRefundPubkey
        hold.locktimeSeconds = some options
  | _ => True

def BuiltFrom (H : HoldTools) (groupPubkey : String) (params : HoldParams) (_ : List Proof)
    (providerPubkey : String) (_ : JsNumber) (options : P2PKOptions) : Prop :=
  buildFrostP2PKOptions H providerPubkey groupPubkey params.customerPubkey params.expiry =
    some options

theorem explains (H : HoldTools) (hasResolver : Bool) (groupPubkey : String) :
    (service H hasResolver groupPubkey).Explains (fun _ => True) (Accounted "frost_p2pk_" Holds)
      (Binds H groupPubkey) (BoundAs (BuiltFrom H groupPubkey)) where
  mono := by
    intro tr evs call p h
    cases p with
    | bindWallet escrowRef providerPubkey now hold => exact Origin.mono h
    | bindSend escrowRef providerPubkey now hold options mintUrl => exact ⟨h.1.mono, h.2⟩
    | _ => trivial
  begin := by
    intro tr t h call a _
    show (begin hasResolver t call a).Explained _ _ _ tr call
    cases a with
    | createHold params =>
      rw [begin]
      split
      next => exact explained_suspended h trivial
      next => exact explained_ended h rfl
    | cancel escrowRef => exact explained_ended (h.delete escrowRef) rfl
    | bindProvider escrowRef providerPubkey now =>
      rw [begin]
      split
      next => exact explained_ended h rfl
      next hold hget => exact explained_suspended h (h.table.origin _ _ hget)
  resume := by
    intro tr t call p b turn h hp hresume
    replace hresume : resume H groupPubkey t call p b = some turn := hresume
    unfold resume at hresume
    split at hresume <;> try obtain rfl := Option.some.inj hresume
    -- most answers end the call and leave the holds alone
    any_goals exact explained_ended h rfl
    next => exact explained_suspended h trivial
    next => exact explained_suspended h trivial
    next => exact explained_held h ⟨rfl, rfl⟩
    next =>
      unfold bindWith
      split
      next => exact explained_ended h rfl
      split
      next => exact explained_ended h rfl
      next options hoptions =>
        split
        next => exact explained_ended h rfl
        next => exact explained_suspended h ⟨hp, hoptions⟩
    next =>
      obtain ⟨horigin, hoptions⟩ := hp
      refine explained_bound h horigin ?_
      rintro params proofs ⟨hcustomer, hexpiry⟩
      rw [BuiltFrom, ← hcustomer, ← hexpiry]
      exact hoptions
    next => cases hresume

end FrostEscrow

/-! ## Plain secrets -/

/-- A secret that no condition can be read from: it is no JSON text, or a number. -/
def PlainSecret (text : NumberText) (secret : String) : Prop :=
  ∀ value, Json.parse text secret = some value → ∃ n, value = .num n

/-- A text of hexadecimal digits is read as a number, if at all. -/
theorem readValue_hex {text : NumberText} {fuel : Nat} {l rest : List Char} {value : Json}
    (hhex : ∀ c ∈ l, isHexDigit c = true) (h : Json.readValue text fuel l = some (value, rest)) :
    ∃ n, value = .num n := by
  cases fuel with
  | zero => cases h
  | succ fuel =>
    cases l with
    | nil => cases h
    | cons c r =>
      have hne : ∀ d, isHexDigit d = false → ¬(c == d) = true := by
        intro d hd heq
        rw [beq_iff_eq.mp heq] at hhex
        simp [hhex d List.mem_cons_self] at hd
      rw [Json.readValue, if_neg (hne '"' (by decide)), if_neg (hne '[' (by decide)),
        if_neg (hne '{' (by decide)), if_neg (hne 'n' (by decide)),
        if_neg (hne 't' (by decide))] at h
      split at h
      next =>
        -- the third letter of the word is no digit
        unfold Json.readWord at h
        split at h
        next hword =>
          obtain ⟨tail, htail⟩ := List.isPrefixOf_iff_prefix.mp hword
          have hletter : 'l' ∈ c :: r := by
            rw [← htail]
            simp
          exact absurd (hhex 'l' hletter) (by decide)
        next => cases h
      unfold Json.readNumber at h
      dsimp only at h
      split at h
      next =>
        cases h
        exact ⟨_, rfl⟩
      next => cases h

/-- The secrets of a wallet, 32 random bytes in hexadecimal digits, are plain. -/
theorem plainSecret_of_isHex {n : Nat} {secret : String} (text : NumberText)
    (h : isHex n secret = true) : PlainSecret text secret := by
  have hhex : ∀ c ∈ secret.toList, isHexDigit c = true := by
    simp only [isHex, Bool.and_eq_true, List.all_eq_true] at h
    exact h.2
  intro value hparse
  unfold Json.parse Json.parseChars at hparse
  split at hparse
  next => cases hparse
  next v rest hread =>
    split at hparse
    next =>
      cases hparse
      refine readValue_hex ?_ hread
      intro c hc
      exact hhex c ((List.dropWhile_suffix _).subset hc)
    next => cases hparse

namespace CashuEscrow

variable {decoded : List Proof}

/-- From plain proofs an empty refund key is read. -/
theorem readCustomerPubkey_of_plain (h : ∀ proof ∈ decoded, PlainSecret H.text proof.secret) :
    readCustomerPubkey H decoded = .str "" := by
  have hindex : ∀ value, firstSecret H decoded = some value → index value 1 = some none := by
    intro value hvalue
    cases decoded with
    | nil =>
      have hempty : firstSecret H [] = some (.arr []) :=
        Json.parse_stringify (T := H.text) (v := .arr []) trivial
      cases hempty.symm.trans hvalue
      rfl
    | cons proof rest =>
      obtain ⟨n, rfl⟩ := h proof List.mem_cons_self value hvalue
      rfl
  unfold readCustomerPubkey
  cases hsecret : firstSecret H decoded with
  | none => rfl
  | some value => simp [tagValue, hindex value hsecret, nullish]

/-- So the builder throws, if it refuses the empty key. -/
theorem finalOptions_of_plain (hrefuses : H.accepts "" = false)
    (h : ∀ proof ∈ decoded, PlainSecret H.text proof.secret) (providerPubkey : String)
    (now : JsNumber) : (bindTerms H decoded providerPubkey now).bind (finalOptions H) = none := by
  unfold bindTerms
  rw [readCustomerPubkey_of_plain h]
  cases readHash H decoded <;> simp [finalOptions, hrefuses]

end CashuEscrow

/-! ## The terms of a binding -/

/-- A token is decoded to the proofs it was encoded from, in some order. -/
def HoldTools.Decodes (H : HoldTools) : Prop :=
  ∀ mintUrl proofs decoded, H.getDecodedToken (H.encodeProofs mintUrl proofs) = some decoded →
    decoded.Perm proofs

/-- The options are those of the hold. -/
structure KeepsHtlcTerms (H : HoldTools) (params : HoldParams) (providerPubkey : String)
    (options : P2PKOptions) : Prop where
  hash : options.hashlock = some params.paymentHash
  provider : options.pubkeys = [H.keys.normalize providerPubkey]
  refund : options.refundKeys = [H.keys.normalize params.customerPubkey]
  locktime : options.locktime = some params.expiry

/-- The options are those of the hold. -/
structure KeepsFrostTerms (H : HoldTools) (groupPubkey : String) (params : HoldParams)
    (providerPubkey : String) (options : P2PKOptions) : Prop where
  keys : options.pubkeys = [H.keys.normalize providerPubkey, H.keys.normalize groupPubkey]
  signatures : options.requiredSignatures = some 2
  refund : options.refundKeys = [H.keys.normalize params.customerPubkey]
  locktime : options.locktime = some params.expiry

variable {providerPubkey : String} {options : P2PKOptions} {params : HoldParams}
  {proofs : List Proof} {now : JsNumber}

theorem keepsFrostTerms_of_builtFrom {groupPubkey : String}
    (h : FrostEscrow.BuiltFrom H groupPubkey params proofs providerPubkey now options) :
    KeepsFrostTerms H groupPubkey params providerPubkey options := by
  unfold FrostEscrow.BuiltFrom FrostEscrow.buildFrostP2PKOptions at h
  split at h
  next => cases h
  split at h
  next =>
    cases h
    exact ⟨rfl, rfl, rfl, rfl⟩
  next => cases h

theorem not_readFrom_of_plain (hdecodes : H.Decodes) (hrefuses : H.accepts "" = false)
    (hplain : ∀ proof ∈ proofs, PlainSecret H.text proof.secret) :
    ¬CashuEscrow.ReadFrom H params proofs providerPubkey now options := by
  rintro ⟨mintUrl, decoded, hdecoded, hoptions⟩
  have hperm := hdecodes mintUrl proofs decoded hdecoded
  rw [CashuEscrow.finalOptions_of_plain hrefuses fun proof hproof =>
    hplain proof (hperm.mem_iff.mp hproof)] at hoptions
  cases hoptions

/-- Every binding keeps the terms of its hold, in every run of either provider. The builder refuses
the empty key, so a hold of plain proofs is never bound by the HTLC provider. -/
theorem hold_terms_kept (hdecodes : H.Decodes) (hrefuses : H.accepts "" = false)
    (hasResolver : Bool) (groupPubkey : String) :
    (∀ tr s pre post call escrowRef providerPubkey now options newRef call' params proofs,
      Run (FrostEscrow.service H hasResolver groupPubkey).machine AnyStep { shared := {} } tr s →
      tr = pre ++ .bound call escrowRef providerPubkey now options newRef :: post →
      .held call' params escrowRef proofs ∈ pre →
      KeepsFrostTerms H groupPubkey params providerPubkey options) ∧
    ∀ tr s pre post call escrowRef providerPubkey now options newRef call' params proofs,
      Run (CashuEscrow.service H hasResolver).machine AnyStep { shared := {} } tr s →
      tr = pre ++ .bound call escrowRef providerPubkey now options newRef :: post →
      .held call' params escrowRef proofs ∈ pre →
      (∀ proof ∈ proofs, PlainSecret H.text proof.secret) →
      KeepsHtlcTerms H params providerPubkey options := by
  constructor
  · intro tr s pre post call escrowRef providerPubkey now options newRef call' params proofs hrun
      htr hheld
    obtain ⟨hjustified, -⟩ := (FrostEscrow.explains H hasResolver groupPubkey).run
      (fun _ _ _ => trivial) .init rfl hrun
    exact keepsFrostTerms_of_builtFrom (hjustified pre _ post htr call' params proofs hheld)
  · intro tr s pre post call escrowRef providerPubkey now options newRef call' params proofs hrun
      htr hheld hplain
    obtain ⟨hjustified, -⟩ := (CashuEscrow.explains H hasResolver).run
      (fun _ _ _ => trivial) .init rfl hrun
    exact absurd (hjustified pre _ post htr call' params proofs hheld)
      (not_readFrom_of_plain hdecodes hrefuses hplain)

/-! ## A hold of one proof -/

def hexSecret : String := "407915bc212be61a77e3e6d2aeb4c727980bda51cd06a6afc29e2861768a7837"

def plainHoldProof : Proof := ⟨.ofInt 5, hexSecret⟩

/-- The builder takes keys of 32 and of 33 bytes. -/
def plainHoldTools : HoldTools where
  toFrostTools := { plainTools with
    getDecodedToken := fun token => if token = "cashuB" then some [plainHoldProof] else none }
  encodeProofs _ proofs :=
    if proofs.map (fun proof => (proof.amount, proof.secret)) = [(.ofInt 5, hexSecret)] then
      "cashuB"
    else ""
  number _ := .nan
  keys := .evenPrefix
  accepts key := isHex 64 key || isHex 66 key

theorem plainHoldTools_decodes : plainHoldTools.Decodes := by
  intro mintUrl proofs decoded h
  simp only [plainHoldTools] at h
  split at h
  next hproofs =>
    rw [if_pos rfl] at h
    cases h
    obtain ⟨⟨amount, secret⟩, rfl, hproof⟩ := List.map_eq_singleton_iff.mp hproofs
    cases hproof
    exact List.Perm.refl _
  next => cases h

def holdProvider : String := hexString 'a' 'b' 'c'

def holdGroup : String := hexString 'b' '2' 'd'

/-- Five sats are held. -/
def plainHoldParams : HoldParams where
  amountSats := .ofInt 5
  paymentHash := "e3b0c44298fc1c149afbf4c8996fb92427ae41e4649b934ca495991b7852b855"
  expiry := .ofInt 9000
  customerPubkey := hexString '1' '2' 'e'

def plainHoldWallet : HoldWallet := ⟨"https://m.test", fun _ => .ofInt 0⟩

/-- The reference that the first hold gets. -/
def firstRef (kind : String) : String := ({} : HoldTable Unit).nextRef kind

def frostHoldCalls : List (CallAction HoldCall HoldAnswer) :=
  [.begin (.createHold plainHoldParams), .resume 0 (.wallet (.value plainHoldWallet)),
    .resume 0 (.sourceProofs (some [])), .resume 0 (.sent (some [plainHoldProof])),
    .begin (.bindProvider (firstRef "frost_p2pk_") holdProvider (.ofInt 1000000)),
    .resume 1 (.wallet (.value plainHoldWallet)), .resume 1 (.sent (some []))]

def heldEvent (kind : String) : HoldEvent :=
  .held 0 plainHoldParams (firstRef kind) [plainHoldProof]

/-- What the Provider is bound with. -/
def frostHoldOptions : P2PKOptions where
  pubkeys := ["02" ++ holdProvider, "02" ++ holdGroup]
  requiredSignatures := some 2
  locktime := some (.ofInt 9000)
  refundKeys := ["02" ++ hexString '1' '2' 'e']
  requiredRefundSignatures := some 1

theorem frost_run : ∃ tr s,
    Run (FrostEscrow.service plainHoldTools true holdGroup).machine AnyStep { shared := {} } tr s ∧
      tr = [heldEvent "frost_p2pk_", .bound 1 (firstRef "frost_p2pk_") holdProvider
        (.ofInt 1000000) frostHoldOptions "frost_p2pk_2"] :=
  Run.exists_of_exec (Machine.admits_anyStep _ frostHoldCalls _) (by decide +kernel)

/-- The FROST provider binds the hold with its terms, and so does the HTLC provider in every run in
which it binds one. -/
theorem hold_terms_kept_plain :
    KeepsFrostTerms plainHoldTools holdGroup plainHoldParams holdProvider frostHoldOptions ∧
    ∀ tr s pre post call providerPubkey now options newRef,
      Run (CashuEscrow.service plainHoldTools true).machine AnyStep { shared := {} } tr s →
      tr = pre ++ .bound call (firstRef "cashu_htlc_") providerPubkey now options newRef :: post →
      heldEvent "cashu_htlc_" ∈ pre →
      KeepsHtlcTerms plainHoldTools plainHoldParams providerPubkey options := by
  constructor
  · obtain ⟨tr, s, hrun, htr⟩ := frost_run
    exact (hold_terms_kept plainHoldTools_decodes (by decide) true holdGroup).1 tr s
      [heldEvent "frost_p2pk_"] [] 1 (firstRef "frost_p2pk_") holdProvider (.ofInt 1000000)
      frostHoldOptions "frost_p2pk_2" 0 plainHoldParams [plainHoldProof] hrun htr List.mem_cons_self
  · intro tr s pre post call providerPubkey now options newRef hrun htr hheld
    refine (hold_terms_kept plainHoldTools_decodes (by decide) true holdGroup).2 tr s pre post call
      _ providerPubkey now options newRef 0 plainHoldParams [plainHoldProof] hrun htr hheld ?_
    intro proof hproof
    obtain rfl := List.mem_singleton.mp hproof
    exact plainSecret_of_isHex (n := 64) _ (by decide)

end Anchr.Payments
