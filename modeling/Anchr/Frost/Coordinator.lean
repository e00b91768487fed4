import Anchr.Frost.Sessions

/-!
# The session coordinator

`payments/frost/frost-coordinator.ts`: a relay that collects the packages of the DKG rounds and the
commitments and shares of signing sessions in memory, and calls the aggregator of the sidecar. Times
are milliseconds. The random id of a new session is an argument. An operation reads the clock once.
-/

namespace Anchr.Frost

open Infra

/-! ## Key generation -/

/-- The target packages of round 2 are stored as they were parsed, since nothing reads them. -/
structure DkgSession where
  sessionId : String
  threshold : Nat
  totalSigners : Nat
  currentRound : Nat := 0
  round1Packages : JsMap JsNumber String := .empty
  round1SecretPackages : JsMap JsNumber String := .empty
  round2Packages : JsMap JsNumber Json := .empty
  round2SecretPackages : JsMap JsNumber String := .empty
  keyPackages : JsMap JsNumber String := .empty
  pubkeyPackage : Option Json := none
  groupPubkey : Option Json := none
  createdAt : Int

/-- The arguments of `submitDkgPackage` after the session id. -/
structure DkgSubmission where
  round : Nat
  signerIndex : JsNumber
  packageJson : String
  secretPackageJson : Option String := none

structure DkgRoundResult where
  round : Nat
  complete : Bool
  groupPubkey : Option Json := none
  pubkeyPackage : Option Json := none

/-- `if (secretPackageJson) packages.set(signerIndex, secretPackageJson)`. -/
def keepSecret (packages : JsMap JsNumber String) (sub : DkgSubmission) : JsMap JsNumber String :=
  match sub.secretPackageJson with
  | some secret => if secret = "" then packages else packages.set sub.signerIndex secret
  | none => packages

/-- `if (value && !kept) kept = value`. -/
def firstTruthy (kept value : Option Json) : Option Json :=
  match value with
  | some v => if v.truthy ∧ ¬(kept.any Json.truthy) then some v else kept
  | none => kept

namespace DkgSession

/-- A session without packages. -/
def init (sessionId : String) (threshold total : Nat) (now : Int) : DkgSession :=
  { sessionId, threshold, totalSigners := total, createdAt := now }

/-- The result of a round whose packages have been counted. -/
def closeRound (session : DkgSession) (round count : Nat) (result : DkgRoundResult) :
    DkgSession × Option DkgRoundResult :=
  if session.totalSigners ≤ count then ({ session with currentRound := round }, some result)
  else (session, some { round, complete := false })

/-- What the key package of a signer says. Parse errors are ignored, and so is that `null` has no
members. -/
def readKeyPackage (T : NumberText) (session : DkgSession) (packageJson : String) : DkgSession :=
  match Json.parse T packageJson with
  | none | some .null => session
  | some parsed =>
    { session with
      groupPubkey := firstTruthy session.groupPubkey (parsed.get? "group_pubkey")
      pubkeyPackage := firstTruthy session.pubkeyPackage (parsed.get? "pubkey_package") }

/-- The three rounds up to the count. -/
def storeRound1 (session : DkgSession) (sub : DkgSubmission) : DkgSession :=
  { session with
    round1Packages := session.round1Packages.set sub.signerIndex sub.packageJson
    round1SecretPackages := keepSecret session.round1SecretPackages sub }

def storeRound2 (session : DkgSession) (sub : DkgSubmission) (packages : Json) : DkgSession :=
  { session with
    round2Packages := session.round2Packages.set sub.signerIndex packages
    round2SecretPackages := keepSecret session.round2SecretPackages sub }

def storeRound3 (T : NumberText) (session : DkgSession) (sub : DkgSubmission) : DkgSession :=
  { session with keyPackages := session.keyPackages.set sub.signerIndex sub.packageJson
  }.readKeyPackage T sub.packageJson

def submitRound1 (session : DkgSession) (sub : DkgSubmission) :
    DkgSession × Option DkgRoundResult :=
  let session := session.storeRound1 sub
  session.closeRound 1 session.round1Packages.entries.length { round := 1, complete := true }

def submitRound2 (session : DkgSession) (sub : DkgSubmission) (packages : Json) :
    DkgSession × Option DkgRoundResult :=
  let session := session.storeRound2 sub packages
  session.closeRound 2 session.round2Packages.entries.length { round := 2, complete := true }

def submitRound3 (T : NumberText) (session : DkgSession) (sub : DkgSubmission) :
    DkgSession × Option DkgRoundResult :=
  let session := session.storeRound3 T sub
  session.closeRound 3 session.keyPackages.entries.length
    { round := 3, complete := true, groupPubkey := session.groupPubkey
      pubkeyPackage := session.pubkeyPackage }

/-- `submitDkgPackage` on the session found. `none` is a throw: the text of round 2 is parsed before
anything is stored, and `Object.entries` takes anything but `null`. -/
def submit (T : NumberText) (session : DkgSession) (sub : DkgSubmission) :
    Option (DkgSession × Option DkgRoundResult) :=
  if sub.round = 1 then some (session.submitRound1 sub)
  else if sub.round = 2 then
    match Json.parse T sub.packageJson with
    | none | some .null => none
    | some packages => some (session.submitRound2 sub packages)
  else if sub.round = 3 then some (session.submitRound3 T sub)
  else some (session, none)

end DkgSession

/-- What a submission comes to. -/
inductive DkgEvent where
  | threw (sub : DkgSubmission)
  | answered (sub : DkgSubmission) (result : Option DkgRoundResult)

/-- A session and the calls of `submitDkgPackage` for it. There is no `await` in one. -/
def dkgMachine (T : NumberText) : Machine DkgSession DkgSubmission DkgEvent where
  step session sub :=
    match session.submit T sub with
    | none => some (session, [.threw sub])
    | some (session', result) => some (session', [.answered sub result])

/-! ## Signing -/

/-- The signers of a group, and how many have to sign. -/
structure ThresholdOracleConfig where
  threshold : Nat
  totalSigners : Nat
  signerPubkeys : List String
  groupPubkey : String

/-- The commitments and the shares so far. -/
structure FrostSigningSession where
  sessionId : String
  queryId : String
  config : ThresholdOracleConfig
  message : String
  nonceCommitments : JsMap String String := .empty
  signatureShares : JsMap String String := .empty
  groupSignature : Option Json := none
  finalized : Bool := false
  createdAt : Int

/-- The arguments of `aggregateSignatures`, whose path and executor are fixed. -/
structure AggregateArgs where
  groupPubkey : String
  commitments : String
  message : String
  signatureShares : String
  pubkeyPackage : String

/-- `obj[key] = value` for each entry, on an object literal. Assigning a string to `__proto__` leaves
the object as it is. -/
def assignedObject (m : JsMap String String) : Json :=
  .obj ((m.entries.filter fun e => e.1 ≠ "__proto__").map fun e => (e.1, .str e.2))

namespace FrostSigningSession

/-- A session without commitments. -/
def started (sessionId queryId message : String) (config : ThresholdOracleConfig) (now : Int) :
    FrostSigningSession :=
  { sessionId, queryId, config, message, createdAt := now }

def submitNonceCommitment (session : FrostSigningSession) (signerPubkey commitment : String) :
    FrostSigningSession :=
  if session.finalized then session
  else { session with
    nonceCommitments := session.nonceCommitments.set signerPubkey commitment }

def submitSignatureShare (session : FrostSigningSession) (signerPubkey share : String) :
    FrostSigningSession :=
  if session.finalized then session
  else { session with signatureShares := session.signatureShares.set signerPubkey share }

/-- `tryAggregate` up to its `await`; `none` when it returns `null` before. -/
def aggregateArgs (T : NumberText) (session : FrostSigningSession) (pubkeyPackage : Option String) :
    Option AggregateArgs :=
  if session.finalized then none
  else if session.signatureShares.entries.length < session.config.threshold then none
  else some {
    groupPubkey := session.config.groupPubkey
    commitments := (assignedObject session.nonceCommitments).stringify T
    message := session.message
    signatureShares := (assignedObject session.signatureShares).stringify T
    pubkeyPackage := pubkeyPackage.getD "" }

end FrostSigningSession

/-- `result.data?.signature` of a successful result, if it is not falsy. -/
def FrostCliResult.signature (result : FrostCliResult) : Option Json :=
  if result.ok then (result.data.bind fun data => data.get? "signature").filter Json.truthy
  else none

/-- `tryAggregate` after its `await`. The signature is returned. -/
def FrostSigningSession.aggregated (session : FrostSigningSession) (result : FrostCliResult) :
    FrostSigningSession :=
  match result.signature with
  | some signature => { session with groupSignature := some signature, finalized := true }
  | none => session

/-- The calls on a session. -/
inductive SigningRequest where
  | commitment (signerPubkey commitment : String)
  | share (signerPubkey share : String)
  | aggregate (pubkeyPackage : Option String)

/-- What the aggregator is asked, and what `tryAggregate` returns. -/
inductive SigningEvent where
  | invoked (call : Nat) (args : AggregateArgs)
  | returned (call : Nat) (signature : Option Json)
  | threw (call : Nat)

namespace FrostSigningSession

def begin (T : NumberText) (session : FrostSigningSession) (call : Nat) :
    SigningRequest → CallTurn FrostSigningSession Unit SigningEvent
  | .commitment signerPubkey commitment =>
    { shared := session.submitNonceCommitment signerPubkey commitment }
  | .share signerPubkey share => { shared := session.submitSignatureShare signerPubkey share }
  | .aggregate pubkeyPackage =>
    match session.aggregateArgs T pubkeyPackage with
    | none => { shared := session, events := [.returned call none] }
    | some args => { shared := session, events := [.invoked call args], pending := some () }

def resume (session : FrostSigningSession) (call : Nat) :
    Option FrostCliResult → CallTurn FrostSigningSession Unit SigningEvent
  | none => { shared := session, events := [.threw call] }
  | some result =>
    { shared := session.aggregated result, events := [.returned call result.signature] }

/-- One session, with the calls of `tryAggregate` that wait for the aggregator. -/
def service (T : NumberText) :
    CallService FrostSigningSession Unit SigningEvent SigningRequest (Option FrostCliResult) where
  begin := begin T
  resume session call _ answer := some (session.resume call answer)

end FrostSigningSession

end Anchr.Frost
