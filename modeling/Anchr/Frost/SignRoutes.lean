import Anchr.Frost.Coordinator
import Anchr.Frost.SignerRoutes

/-!
# The coordinator's maps and the signing routes

`createFrostCoordinator` with its three maps, and the routes of
`adapters/oracle-service/frost-sign-routes.ts` over it, behind the authentication. An operation
comes with the time at which it is carried out.
-/

namespace Anchr.Frost

open Infra

def FROST_SESSION_TTL_MS : Int := 30 * 60 * 1000

def FROST_FINALIZED_RETENTION_MS : Int := 60 * 1000

/-- `session.created_at < cutoff` for a DKG session. -/
def DkgSession.stale (session : DkgSession) (now : Int) : Bool :=
  decide (session.createdAt < now - FROST_SESSION_TTL_MS)

/-- `abandoned || settled`. -/
def FrostSigningSession.stale (session : FrostSigningSession) (now : Int) : Bool :=
  decide (session.createdAt < now - FROST_SESSION_TTL_MS) ||
    session.finalized && decide (session.createdAt < now - FROST_FINALIZED_RETENTION_MS)

/-- The maps. A map holds references: a call that waits for the aggregator keeps its session after
the session has been evicted. So signing sessions are objects, numbered in the order they were
started, and `signingSessions` gives the number. -/
structure Coordinator where
  dkgSessions : JsMap String DkgSession := .empty
  /-- Every signing session started so far. -/
  objects : List FrostSigningSession := []
  signingSessions : JsMap String Nat := .empty
  querySessionMap : JsMap String String := .empty

namespace Coordinator

def getDkgSession (c : Coordinator) (sessionId : String) : Option DkgSession :=
  c.dkgSessions.get? sessionId

/-- The reference `signingSessions.get(sessionId)` gives, with the session it refers to. -/
def find (c : Coordinator) (sessionId : String) : Option (Nat × FrostSigningSession) :=
  (c.signingSessions.get? sessionId).bind fun ref => (c.objects[ref]?).map fun s => (ref, s)

/-- The session under a session id. -/
def getSigningSession (c : Coordinator) (sessionId : String) : Option FrostSigningSession :=
  (c.find sessionId).map Prod.snd

def evictDkg (now : Int) (sessions : JsMap String DkgSession) (entry : String × DkgSession) :
    JsMap String DkgSession :=
  if entry.2.stale now then sessions.delete entry.1 else sessions

def evictSigning (now : Int) (c : Coordinator) (entry : String × Nat) : Coordinator :=
  match c.objects[entry.2]? with
  | none => c
  | some session =>
    if session.stale now then
      { c with
        signingSessions := c.signingSessions.delete entry.1
        querySessionMap :=
          if c.querySessionMap.get? session.queryId = some entry.1
          then c.querySessionMap.delete session.queryId else c.querySessionMap }
    else c

def evictStaleSessions (c : Coordinator) (now : Int) : Coordinator :=
  let c := { c with dkgSessions := c.dkgSessions.entries.foldl (evictDkg now) c.dkgSessions }
  c.signingSessions.entries.foldl (evictSigning now) c

def initDkg (c : Coordinator) (sessionId : String) (threshold total : Nat) (now : Int) :
    Coordinator :=
  let c := c.evictStaleSessions now
  { c with dkgSessions := c.dkgSessions.set sessionId (.init sessionId threshold total now) }

/-- `submitDkgPackage`; the second component is `none` when it throws. -/
def submitDkgPackage (T : NumberText) (c : Coordinator) (sessionId : String) (sub : DkgSubmission) :
    Coordinator × Option (Option DkgRoundResult) :=
  match c.dkgSessions.get? sessionId with
  | none => (c, some none)
  | some session =>
    match session.submit T sub with
    | none => (c, none)
    | some (session', result) =>
      ({ c with dkgSessions := c.dkgSessions.set sessionId session' }, some result)

def startSigning (c : Coordinator) (sessionId queryId message : String)
    (config : ThresholdOracleConfig) (now : Int) : Coordinator :=
  let c := c.evictStaleSessions now
  { c with
    objects := c.objects ++ [.started sessionId queryId message config now]
    signingSessions := c.signingSessions.set sessionId c.objects.length
    querySessionMap := c.querySessionMap.set queryId sessionId }

def modify (c : Coordinator) (ref : Nat) (f : FrostSigningSession → FrostSigningSession) :
    Coordinator :=
  { c with objects := c.objects.modify ref f }

def submitNonceCommitment (c : Coordinator) (sessionId signerPubkey commitment : String) :
    Coordinator :=
  match c.find sessionId with
  | none => c
  | some (ref, _) => c.modify ref fun s => s.submitNonceCommitment signerPubkey commitment

def submitSignatureShare (c : Coordinator) (sessionId signerPubkey share : String) : Coordinator :=
  match c.find sessionId with
  | none => c
  | some (ref, _) => c.modify ref fun s => s.submitSignatureShare signerPubkey share

/-- `tryAggregate` up to its `await`, with the session it has found. -/
def tryAggregate (T : NumberText) (c : Coordinator) (sessionId : String)
    (pubkeyPackage : Option String) : Option (Nat × AggregateArgs) :=
  (c.find sessionId).bind fun (ref, session) =>
    (session.aggregateArgs T pubkeyPackage).map fun args => (ref, args)

end Coordinator

/-! ## Routes -/

structure CommitmentBody where
  sessionId : Option String := none
  signerPubkey : Option String := none
  commitment : Option String := none

structure ShareBody where
  sessionId : Option String := none
  signerPubkey : Option String := none
  share : Option String := none

/-- No member is missing or empty. -/
def CommitmentBody.complete (body : CommitmentBody) : Bool :=
  body.sessionId.any (· ≠ "") && body.signerPubkey.any (· ≠ "") && body.commitment.any (· ≠ "")

def ShareBody.complete (body : ShareBody) : Bool :=
  body.sessionId.any (· ≠ "") && body.signerPubkey.any (· ≠ "") && body.share.any (· ≠ "")

/-- The methods of the coordinator, and the routes. -/
inductive SignOperation where
  | initDkg (sessionId : String) (threshold total : Nat)
  | submitDkgPackage (sessionId : String) (sub : DkgSubmission)
  | getDkgSession (sessionId : String)
  | startSigning (sessionId queryId message : String) (config : ThresholdOracleConfig)
  | submitNonceCommitment (sessionId signerPubkey commitment : String)
  | submitSignatureShare (sessionId signerPubkey share : String)
  | tryAggregate (sessionId : String) (pubkeyPackage : Option String)
  | getSigningSession (sessionId : String)
  /-- `POST /frost/sign/:queryId`; `none` is a body that is not JSON. -/
  | postSign (queryId : String) (message : Option String) (sessionId : String)
  /-- `POST /frost/sign/:queryId/commitments`. -/
  | postCommitments (body : Option CommitmentBody)
  /-- `POST /frost/sign/:queryId/shares`. -/
  | postShares (body : Option ShareBody)
  /-- `GET /frost/sign/:queryId`. -/
  | getSign (queryId : String)

inductive SignReply where
  | dkgSession (session : Option DkgSession)
  | dkgRound (result : Option DkgRoundResult)
  | signingSession (session : Option FrostSigningSession)
  | done
  | signature (signature : Option Json)
  | response (response : Response)
  | threw

/-- The answer to a call. -/
structure SignEvent where
  call : Nat
  reply : SignReply

def natJson (n : Nat) : Json := .num (.ofInt n)

/-- The session as `GET` answers it. An absent signature is not written. -/
def signingSessionResponse (found : FrostSigningSession) : Response where
  body := .obj ([("session_id", .str found.sessionId), ("query_id", .str found.queryId),
    ("message", .str found.message), ("threshold", natJson found.config.threshold),
    ("commitments_count", natJson found.nonceCommitments.entries.length),
    ("shares_count", natJson found.signatureShares.entries.length),
    ("finalized", .bool found.finalized)] ++
    found.groupSignature.toList.map fun signature => ("signature", signature))

/-- `GET /frost/sign/:queryId` for the session it has found. -/
def getSignResponse : Option FrostSigningSession → Response
  | none => errorResponse 404 "Signing session not found"
  | some found => signingSessionResponse found

def startedResponse (session : FrostSigningSession) : Response where
  status := 201
  body := .obj [("session_id", .str session.sessionId), ("query_id", .str session.queryId),
    ("message", .str session.message), ("threshold", natJson session.config.threshold)]

def commitmentsResponse (session : Option FrostSigningSession) : Response where
  body := .obj [
    ("commitments_count", natJson (session.elim 0 fun s => s.nonceCommitments.entries.length)),
    ("threshold", natJson (session.elim 0 fun s => s.config.threshold))]

/-- The answer to a share; the signature is that of the `tryAggregate` it has led to. -/
def sharesResponse (session : Option FrostSigningSession) (signature : Option Json) : Response where
  body := .obj ([
    ("shares_count", natJson (session.elim 0 fun s => s.signatureShares.entries.length)),
    ("threshold", natJson (session.elim 0 fun s => s.config.threshold)),
    ("finalized", .bool signature.isSome)] ++
    signature.toList.map fun signature => ("signature", signature))

/-! ## The service -/

/-- When something happens. -/
structure Timed (α : Type) where
  now : Int
  value : α

/-- The coordinator, and the time of the last operation. -/
structure SignShared where
  coordinator : Coordinator := {}
  clock : Int

namespace SignRoutes

inductive Pending where
  /-- In `tryAggregate`, at `await aggregateSignatures(..)`, called by the shares route or not. -/
  | aggregating (ref : Nat) (route : Bool)
  /-- In the shares route, at `await tryAggregate(..)`, which has returned. -/
  | responding (ref : Nat) (signature : Option Json)

inductive Answer where
  /-- What `aggregateSignatures` resolves to; `none` when it throws. -/
  | aggregated (result : Option FrostCliResult)
  | continued

abbrev Turn := CallTurn SignShared Pending SignEvent

def answer (coordinator : Coordinator) (clock : Int) (call : Nat) (reply : SignReply) : Turn where
  shared := { coordinator, clock }
  events := [{ call, reply }]

section

variable (T : NumberText) (frostConfig : Option ThresholdOracleConfig)

def postSign (c : Coordinator) (now : Int) (call : Nat) (queryId : String)
    (message : Option String) (sessionId : String) : Turn :=
  match message.filter (· ≠ "") with
  | none => answer c now call (.response (errorResponse 400 "Missing message"))
  | some message =>
    match frostConfig with
    | none => answer c now call (.response (errorResponse 503 "FROST not configured"))
    | some config =>
      answer (c.startSigning sessionId queryId message config now) now call
        (.response (startedResponse (.started sessionId queryId message config now)))

def postCommitments (c : Coordinator) (now : Int) (call : Nat) (body : Option CommitmentBody) :
    Turn :=
  match body with
  | some ⟨some sessionId, some signerPubkey, some commitment⟩ =>
    if sessionId = "" ∨ signerPubkey = "" ∨ commitment = "" then
      answer c now call
        (.response (errorResponse 400 "Missing session_id, signer_pubkey, or commitment"))
    else
      let c := c.submitNonceCommitment sessionId signerPubkey commitment
      answer c now call (.response (commitmentsResponse (c.getSigningSession sessionId)))
  | _ =>
    answer c now call
      (.response (errorResponse 400 "Missing session_id, signer_pubkey, or commitment"))

def postShares (c : Coordinator) (now : Int) (call : Nat) (body : Option ShareBody) : Turn :=
  match body with
  | some ⟨some sessionId, some signerPubkey, some share⟩ =>
    if sessionId = "" ∨ signerPubkey = "" ∨ share = "" then
      answer c now call (.response (errorResponse 400 "Missing session_id, signer_pubkey, or share"))
    else
      let c := c.submitSignatureShare sessionId signerPubkey share
      match c.find sessionId with
      | none => answer c now call (.response (sharesResponse none none))
      | some (ref, session) =>
        if session.config.threshold ≤ session.signatureShares.entries.length then
          { shared := { coordinator := c, clock := now }
            pending := some (
              if (session.aggregateArgs T none).isSome then .aggregating ref true
              else .responding ref none) }
        else answer c now call (.response (sharesResponse (some session) none))
  | _ =>
    answer c now call (.response (errorResponse 400 "Missing session_id, signer_pubkey, or share"))

def begin (s : SignShared) (call : Nat) (r : Timed SignOperation) : Turn :=
  let c := s.coordinator
  match r.value with
  | .initDkg sessionId threshold total =>
    answer (c.initDkg sessionId threshold total r.now) r.now call
      (.dkgSession (some (.init sessionId threshold total r.now)))
  | .submitDkgPackage sessionId sub =>
    let result := c.submitDkgPackage T sessionId sub
    answer result.1 r.now call (result.2.elim .threw .dkgRound)
  | .getDkgSession sessionId => answer c r.now call (.dkgSession (c.getDkgSession sessionId))
  | .startSigning sessionId queryId message config =>
    answer (c.startSigning sessionId queryId message config r.now) r.now call
      (.signingSession (some (.started sessionId queryId message config r.now)))
  | .submitNonceCommitment sessionId signerPubkey commitment =>
    answer (c.submitNonceCommitment sessionId signerPubkey commitment) r.now call .done
  | .submitSignatureShare sessionId signerPubkey share =>
    answer (c.submitSignatureShare sessionId signerPubkey share) r.now call .done
  | .tryAggregate sessionId pubkeyPackage =>
    match c.tryAggregate T sessionId pubkeyPackage with
    | none => answer c r.now call (.signature none)
    | some (ref, _) =>
      { shared := { coordinator := c, clock := r.now }, pending := some (.aggregating ref false) }
  | .getSigningSession sessionId =>
    answer c r.now call (.signingSession (c.getSigningSession sessionId))
  | .postSign queryId message sessionId =>
    postSign frostConfig c r.now call queryId message sessionId
  | .postCommitments body => postCommitments c r.now call body
  | .postShares body => postShares T c r.now call body
  | .getSign queryId =>
    answer c r.now call (.response (getSignResponse (c.getSigningSession queryId)))

def resume (s : SignShared) (call : Nat) (p : Pending) (b : Timed Answer) : Option Turn :=
  let c := s.coordinator
  match p, b.value with
  | .aggregating _ _, .aggregated none => some (answer c b.now call .threw)
  | .aggregating ref route, .aggregated (some result) =>
    let c := c.modify ref fun session => session.aggregated result
    some (if route then
        { shared := { coordinator := c, clock := b.now }
          pending := some (.responding ref result.signature) }
      else answer c b.now call (.signature result.signature))
  | .responding ref signature, .continued =>
    some (answer c b.now call (.response (sharesResponse c.objects[ref]? signature)))
  | _, _ => none

def service : CallService SignShared Pending SignEvent (Timed SignOperation) (Timed Answer) where
  begin := begin T frostConfig
  resume := resume

end

end SignRoutes

end Anchr.Frost
