import Anchr.Infra.CallService
import Anchr.Infra.Tickets
import Anchr.Frost.SignatureAdapter
import Anchr.Payments.HtlcOptions

/-!
# Holds and their binding

`createHold`, `bindProvider` and `cancel` of `payments/cashu/cashu-escrow-provider.ts` and of
`payments/cashu/frost-escrow-provider.ts`, with `createHtlcToken` and `swapHtlcBindProvider` of
`payments/cashu/cashu-escrow.ts`. A hold is a token of plain proofs under a reference; binding swaps
its proofs for proofs that are locked to the selected Provider.
-/

namespace Anchr.Payments

open Infra Frost

deriving instance DecidableEq for Proof, P2PKOptions

/-! ## Tools and calls -/

/-- What the library gives. -/
structure HoldTools extends FrostTools where
  /-- `encodeProofs`, for a mint. -/
  encodeProofs : String → List Proof → String
  /-- `Number` on a parsed value. -/
  number : Json → JsNumber
  keys : BuilderKeys
  /-- The keys at which the builder does not throw. -/
  accepts : String → Bool

/-- The terms of a hold. -/
structure HoldParams where
  amountSats : JsNumber
  paymentHash : String
  expiry : JsNumber
  customerPubkey : String
  deriving DecidableEq

/-- The calls of both providers. -/
inductive HoldCall where
  | createHold (params : HoldParams)
  /-- `now` is `Date.now()` in the first turn of the call. -/
  | bindProvider (escrowRef providerPubkey : String) (now : JsNumber)
  | cancel (escrowRef : String)

/-- The wallet and the configuration that `getWalletAndConfig` gives. -/
structure HoldWallet where
  mintUrl : String
  getFeesForProofs : List Proof → JsNumber

/-- What the library and the mint answer. -/
inductive HoldAnswer where
  /-- Of `sourceProofsResolver`; `none` when it rejects. -/
  | sourceProofs (proofs : Option (List Proof))
  /-- Of `getWalletAndConfig`. -/
  | wallet (found : Settled HoldWallet)
  /-- Of `loadAndSend`; `none` when it rejects or is too late. -/
  | sent (proofs : Option (List Proof))

/-- What can be seen of a call. -/
inductive HoldEvent where
  /-- `createHold` returns a reference to these proofs. -/
  | held (call : Nat) (params : HoldParams) (escrowRef : String) (proofs : List Proof)
  /-- `bindProvider` has swapped the proofs with these options and returns the new reference. -/
  | bound (call : Nat) (escrowRef providerPubkey : String) (now : JsNumber) (options : P2PKOptions)
      (newRef : String)
  | cancelled (call : Nat) (escrowRef : String) (deleted : Bool)
  | declined (call : Nat)
  | rejected (call : Nat)
  deriving DecidableEq

/-- The references of a provider: `tokenMap` and `refCounter`. -/
structure HoldTable (ν : Type) where
  tokenMap : TicketTable ν := {}
  refCounter : Nat := 0

namespace HoldTable

variable {ν : Type}

/-- The reference that `++refCounter` gives. -/
def nextRef (kind : String) (t : HoldTable ν) : String :=
  kind ++ String.ofList (natChars (t.refCounter + 1))

def issue (kind : String) (t : HoldTable ν) (hold : ν) : HoldTable ν where
  tokenMap := t.tokenMap.store (t.nextRef kind) hold
  refCounter := t.refCounter + 1

def delete (t : HoldTable ν) (escrowRef : String) : HoldTable ν :=
  { t with tokenMap := t.tokenMap.consume escrowRef }

def get? (t : HoldTable ν) (escrowRef : String) : Option ν := t.tokenMap.entries.get? escrowRef

end HoldTable

variable (H : HoldTools)

def computeNetAmount (wallet : HoldWallet) (proofs : List Proof) : Option JsNumber :=
  let amountSats := (sumAmounts proofs).sub (wallet.getFeesForProofs proofs)
  if amountSats.le (.ofInt 0) then none else some amountSats

/-- `cancel`, of both providers. -/
def cancelHold {ν π : Type} (t : HoldTable ν) (call : Nat) (escrowRef : String) :
    CallTurn (HoldTable ν) π HoldEvent where
  shared := t.delete escrowRef
  events := [.cancelled call escrowRef (t.get? escrowRef).isSome]

/-! ## HTLC -/

namespace CashuEscrow

/-- The HTLC provider keeps the token and reads the terms of the lock out of it. -/
structure Hold where
  token : String
  proofs : List Proof

/-- `value[index]` on a parsed value; `none` when it throws. -/
def index (value : Json) (i : Nat) : Option (Option Json) :=
  match value with
  | .null => none
  | .arr elems => some elems[i]?
  | .obj members => some ((Json.obj members).get? (String.ofList (natChars i)))
  | .str s => some (s.toList[i]?.map fun c => .str (String.singleton c))
  | _ => some none

/-- `tags.find((t) => t[0] === name)`; `none` when it throws. -/
def findTag (name : String) : List Json → Option (Option Json)
  | [] => some none
  | tag :: tags =>
    match index tag 0 with
    | none => none
    | some first =>
      if first.bind Json.asString? = some name then some (some tag) else findTag name tags

/-- `value ?? fallback`, where the fallback is `none`. -/
def nullish : Option Json → Option Json
  | some .null => none
  | value => value

/-- The tag of a name in `secret[1]?.tags ?? []`, and its member 1; `none` when it throws. -/
def tagValue (secret : Json) (name : String) : Option (Option Json) :=
  match index secret 1 with
  | none => none
  | some body =>
    match nullish (body.bind fun b => b.get? "tags") with
    | none => some none
    | some (.arr tags) =>
      match findTag name tags with
      | none => none
      | some none => some none
      | some (some tag) => index tag 1
    | some _ => none

/-- `firstProof?.secret ?? "[]"`, parsed. -/
def firstSecret (proofs : List Proof) : Option Json :=
  Json.parse H.text ((proofs.head?.map Proof.secret).getD "[]")

def readCustomerPubkey (proofs : List Proof) : Json :=
  match (firstSecret H proofs).bind fun secret => tagValue secret "refund" with
  | some value => (nullish value).getD (.str "")
  | none => .str ""

/-- The locktime that is read; an hour from now where there is none. -/
def readLocktime (proofs : List Proof) (now : JsNumber) : JsNumber :=
  match (firstSecret H proofs).bind fun secret => tagValue secret "locktime" with
  | some (some value) =>
    if value.truthy then H.number value else (now.scale (1 / 1000)).floor.add (.ofInt 3600)
  | _ => (now.scale (1 / 1000)).floor.add (.ofInt 3600)

def readHash (proofs : List Proof) : Json :=
  match (firstSecret H proofs).bind fun secret => index secret 1 with
  | some body => (nullish (body.bind fun b => b.get? "data")).getD (.str "")
  | none => .str ""

/-- The terms of the lock. A hash or a key that is no text makes the builder throw: `none`. -/
def bindTerms (proofs : List Proof) (providerPubkey : String) (now : JsNumber) :
    Option HtlcProviderBindParams :=
  match readHash H proofs, readCustomerPubkey H proofs with
  | .str hash, .str customerRefundPubkey =>
    some { hash, providerPubkey, customerRefundPubkey, locktimeSeconds := readLocktime H proofs now }
  | _, _ => none

/-- `buildHtlcFinalOptions`; `none` when the builder throws. -/
def finalOptions (terms : HtlcProviderBindParams) : Option P2PKOptions :=
  if H.accepts terms.providerPubkey && H.accepts terms.customerRefundPubkey then
    some (buildHtlcFinalOptions H.keys terms)
  else none

/-- A suspended call. -/
inductive Pending where
  | holdSource (params : HoldParams)
  | holdWallet (params : HoldParams) (sourceProofs : List Proof)
  | holdSend (params : HoldParams) (mintUrl : String)
  | bindWallet (escrowRef providerPubkey : String) (now : JsNumber) (proofs : List Proof)
      (terms : Option HtlcProviderBindParams)
  | bindSend (escrowRef providerPubkey : String) (now : JsNumber) (options : P2PKOptions)
      (mintUrl : String)

def begin (hasResolver : Bool) (t : HoldTable Hold) (call : Nat) :
    HoldCall → CallTurn (HoldTable Hold) Pending HoldEvent
  | .createHold params =>
    if hasResolver then { shared := t, pending := some (.holdSource params) }
    else { shared := t, events := [.declined call] }
  | .bindProvider escrowRef providerPubkey now =>
    match t.get? escrowRef with
    | none => { shared := t, events := [.declined call] }
    | some hold =>
      match H.getDecodedToken hold.token with
      | none => { shared := t, events := [.rejected call] }
      | some decoded =>
        { shared := t
          pending := some (.bindWallet escrowRef providerPubkey now hold.proofs
            (bindTerms H decoded providerPubkey now)) }
  | .cancel escrowRef => cancelHold t call escrowRef

/-- `swapHtlcBindProvider` once it has the wallet. -/
def bindWith (t : HoldTable Hold) (call : Nat) (escrowRef providerPubkey : String) (now : JsNumber)
    (proofs : List Proof) (terms : Option HtlcProviderBindParams) (wallet : HoldWallet) :
    CallTurn (HoldTable Hold) Pending HoldEvent :=
  match terms.bind (finalOptions H) with
  | none => { shared := t, events := [.rejected call] }
  | some options =>
    match computeNetAmount wallet proofs with
    | none => { shared := t, events := [.declined call] }
    | some _ =>
      { shared := t, pending := some (.bindSend escrowRef providerPubkey now options wallet.mintUrl) }

def resume (t : HoldTable Hold) (call : Nat) :
    Pending → HoldAnswer → Option (CallTurn (HoldTable Hold) Pending HoldEvent)
  | .holdSource _, .sourceProofs none => some { shared := t, events := [.rejected call] }
  | .holdSource params, .sourceProofs (some proofs) =>
    some { shared := t, pending := some (.holdWallet params proofs) }
  | .holdWallet _ _, .wallet .null => some { shared := t, events := [.declined call] }
  | .holdWallet _ _, .wallet (.threw _) => some { shared := t, events := [.rejected call] }
  | .holdWallet params _, .wallet (.value wallet) =>
    some { shared := t, pending := some (.holdSend params wallet.mintUrl) }
  | .holdSend _ _, .sent none => some { shared := t, events := [.declined call] }
  | .holdSend params mintUrl, .sent (some send) =>
    some { shared := t.issue "cashu_htlc_" ⟨H.encodeProofs mintUrl send, send⟩
           events := [.held call params (t.nextRef "cashu_htlc_") send] }
  | .bindWallet _ _ _ _ _, .wallet .null => some { shared := t, events := [.declined call] }
  | .bindWallet _ _ _ _ _, .wallet (.threw _) => some { shared := t, events := [.rejected call] }
  | .bindWallet escrowRef providerPubkey now proofs terms, .wallet (.value wallet) =>
    some (bindWith H t call escrowRef providerPubkey now proofs terms wallet)
  | .bindSend _ _ _ _ _, .sent none => some { shared := t, events := [.declined call] }
  | .bindSend escrowRef providerPubkey now options mintUrl, .sent (some send) =>
    some { shared := (t.issue "cashu_htlc_" ⟨H.encodeProofs mintUrl send, send⟩).delete escrowRef
           events := [.bound call escrowRef providerPubkey now options (t.nextRef "cashu_htlc_")] }
  | _, _ => none

/-- The HTLC provider, with suspended calls. -/
def service (hasResolver : Bool) :
    CallService (HoldTable Hold) Pending HoldEvent HoldCall HoldAnswer where
  begin := begin H hasResolver
  resume := resume H

end CashuEscrow

/-! ## FROST -/

namespace FrostEscrow

/-- The FROST provider keeps the refund key and the locktime. -/
structure Hold where
  token : String
  proofs : List Proof
  customerRefundPubkey : String
  locktimeSeconds : JsNumber

/-- `buildFrostP2PKOptions`; `none` when it throws. -/
def buildFrostP2PKOptions (providerPubkey groupPubkey customerRefundPubkey : String)
    (locktimeSeconds : JsNumber) : Option P2PKOptions :=
  if customerRefundPubkey = "" then none
  else if H.accepts providerPubkey && H.accepts groupPubkey && H.accepts customerRefundPubkey then
    some (({} : P2PKOptions)
      |>.addLockPubkey H.keys providerPubkey
      |>.addLockPubkey H.keys groupPubkey
      |>.requireLockSignatures 2
      |>.lockUntil locktimeSeconds
      |>.addRefundPubkey H.keys customerRefundPubkey
      |>.requireRefundSignatures 1)
  else none

inductive Pending where
  | holdWallet (params : HoldParams)
  | holdSource (params : HoldParams) (mintUrl : String)
  | holdSend (params : HoldParams) (mintUrl : String)
  | bindWallet (escrowRef providerPubkey : String) (now : JsNumber) (hold : Hold)
  | bindSend (escrowRef providerPubkey : String) (now : JsNumber) (hold : Hold)
      (options : P2PKOptions) (mintUrl : String)

def begin (hasResolver : Bool) (t : HoldTable Hold) (call : Nat) :
    HoldCall → CallTurn (HoldTable Hold) Pending HoldEvent
  | .createHold params =>
    if hasResolver then { shared := t, pending := some (.holdWallet params) }
    else { shared := t, events := [.declined call] }
  | .bindProvider escrowRef providerPubkey now =>
    match t.get? escrowRef with
    | none => { shared := t, events := [.declined call] }
    | some hold => { shared := t, pending := some (.bindWallet escrowRef providerPubkey now hold) }
  | .cancel escrowRef => cancelHold t call escrowRef

/-- `bindProvider` once it has the wallet. -/
def bindWith (groupPubkey : String) (t : HoldTable Hold) (call : Nat)
    (escrowRef providerPubkey : String) (now : JsNumber) (hold : Hold) (wallet : HoldWallet) :
    CallTurn (HoldTable Hold) Pending HoldEvent :=
  if hold.customerRefundPubkey = "" then { shared := t, events := [.declined call] }
  else
    match buildFrostP2PKOptions H providerPubkey groupPubkey hold.customerRefundPubkey
      hold.locktimeSeconds with
    | none => { shared := t, events := [.rejected call] }
    | some options =>
      match computeNetAmount wallet hold.proofs with
      | none => { shared := t, events := [.declined call] }
      | some _ =>
        { shared := t
          pending := some (.bindSend escrowRef providerPubkey now hold options wallet.mintUrl) }

def resume (groupPubkey : String) (t : HoldTable Hold) (call : Nat) :
    Pending → HoldAnswer → Option (CallTurn (HoldTable Hold) Pending HoldEvent)
  | .holdWallet _, .wallet .null => some { shared := t, events := [.declined call] }
  | .holdWallet _, .wallet (.threw _) => some { shared := t, events := [.rejected call] }
  | .holdWallet params, .wallet (.value wallet) =>
    some { shared := t, pending := some (.holdSource params wallet.mintUrl) }
  | .holdSource _ _, .sourceProofs none => some { shared := t, events := [.rejected call] }
  | .holdSource params mintUrl, .sourceProofs (some _) =>
    some { shared := t, pending := some (.holdSend params mintUrl) }
  | .holdSend _ _, .sent none => some { shared := t, events := [.declined call] }
  | .holdSend params mintUrl, .sent (some send) =>
    some { shared := t.issue "frost_p2pk_"
             ⟨H.encodeProofs mintUrl send, send, params.customerPubkey, params.expiry⟩
           events := [.held call params (t.nextRef "frost_p2pk_") send] }
  | .bindWallet _ _ _ _, .wallet .null => some { shared := t, events := [.declined call] }
  | .bindWallet _ _ _ _, .wallet (.threw _) => some { shared := t, events := [.rejected call] }
  | .bindWallet escrowRef providerPubkey now hold, .wallet (.value wallet) =>
    some (bindWith H groupPubkey t call escrowRef providerPubkey now hold wallet)
  | .bindSend _ _ _ _ _ _, .sent none => some { shared := t, events := [.declined call] }
  | .bindSend escrowRef providerPubkey now hold options mintUrl, .sent (some send) =>
    some { shared := (t.issue "frost_p2pk_" ⟨H.encodeProofs mintUrl send, send,
             hold.customerRefundPubkey, hold.locktimeSeconds⟩).delete escrowRef
           events := [.bound call escrowRef providerPubkey now options (t.nextRef "frost_p2pk_")] }
  | _, _ => none

/-- The FROST provider, with suspended calls. -/
def service (hasResolver : Bool) (groupPubkey : String) :
    CallService (HoldTable Hold) Pending HoldEvent HoldCall HoldAnswer where
  begin := begin hasResolver
  resume := resume H groupPubkey

end FrostEscrow

end Anchr.Payments
