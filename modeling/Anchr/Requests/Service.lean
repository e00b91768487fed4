import Anchr.Requests.Methods
import Anchr.Infra.Machine

/-!
# The query service as a machine

One in-memory store, any number of calls.
-/

namespace Anchr.Requests

open Infra

/-! ## State and actions -/

/-- The store, and the suspended calls. -/
structure State where
  store : QueryStore
  registry : Option OracleRegistry
  /-- What the preimage store holds: hash to preimage. -/
  preimages : JsMap String String
  calls : JsMap Nat Pending
  nextCall : Nat
  /-- The query ids given out so far. No method reads them. -/
  minted : List String

/-- No records and no calls. -/
def State.init (registry : Option OracleRegistry) (preimages : JsMap String String) : State where
  store := .empty
  registry := registry
  preimages := preimages
  calls := .empty
  nextCall := 0
  minted := []

/-- One record. -/
def State.holding (query : Query) (registry : Option OracleRegistry)
    (preimages : JsMap String String) : State :=
  { State.init registry preimages with
    store := JsMap.empty.set query.id query
    minted := [query.id] }

def escrowQuery (status : QueryStatus) (escrow : EscrowInfo) : Query where
  id := "q"
  status := status
  description := "weather"
  verificationRequirements := []
  createdAt := .ofInt 0
  expiresAt := .ofInt 600000
  paymentLock := some { amountSats := .ofInt 100 }
  oracleIds := some ["a"]
  paymentStatus := .escrowLocked
  escrow := some escrow
  offers := some []

def openEscrow (type : EscrowType) : EscrowInfo where
  type := type
  oraclePubkeys := ["o"]
  customerPubkey := "c"
  locktime := .ofInt 3600

/-- Starting a call, resuming a suspended one and letting the preimage store carry out what it was
asked. -/
inductive Action where
  | createQuery (input : QueryInput) (options : Option CreateQueryOptions) (now : JsNumber)
      (newQueryId newChallengeNonce : String)
  | submitQueryResult (id : String) (result : QueryResult) (submissionMeta : SubmissionMeta)
      (oracleId : Option String) (blossomKeys : Option BlossomKeyMap) (now : JsNumber)
  | cancelQuery (id : String)
  | expireQueries (now : JsNumber)
  | purgeExpiredFromStore
  | clearQueryStore
  | recordOffer (queryId : String) (offer : OfferInfo)
  | selectProvider (queryId providerPubkey : String) (escrowToken : Option String)
  | beginWork (queryId : String)
  | recordResult (queryId : String) (result : QueryResult) (providerPubkey : String)
      (blossomKeys : Option BlossomKeyMap) (now : JsNumber)
  | completeVerification (queryId : String) (passed : Bool) (oracleId : Option String)
  | submitEscrowResult (queryId : String) (result : QueryResult) (providerPubkey : String)
      (oracleId : Option String) (blossomKeys : Option BlossomKeyMap) (now : JsNumber)
  | resume (call : Nat) (answer : Answer) (now : JsNumber)
  /-- The preimage store carries out what a suspended call asked of it. -/
  | serve (call : Nat)
  | registerOracle (oracle : Oracle)
  /-- Anyone else uses the preimage store. -/
  | setPreimages (preimages : JsMap String String)

/-! ## Steps -/

def State.begin (s : State) (turn : Turn) : State × List Event :=
  ({ s with
      store := commit s.store turn.write
      calls :=
        match turn.pending with
        | some p => s.calls.set s.nextCall p
        | none => s.calls
      nextCall := s.nextCall + 1 },
    turn.events)

def State.continue (s : State) (call : Nat) (turn : Turn) : State × List Event :=
  ({ s with
      store := commit s.store turn.write
      calls :=
        match turn.pending with
        | some p => s.calls.set call p
        | none => s.calls.delete call },
    turn.events)

def State.serve (s : State) (call : Nat) : Pending → Option (State × List Event)
  | .escrowGet hash updated =>
    some ({ s with calls := s.calls.set call (.escrowGot hash (s.preimages.get? hash) updated) },
      [.preimageRead call hash (s.preimages.get? hash)])
  | .escrowDelete hash preimage updated =>
    some ({ s with
        preimages := s.preimages.delete hash
        calls := s.calls.set call (.escrowDeleted hash preimage updated) },
      [.preimageDeleted call hash])
  | _ => none

/-- A call, a turn of one, or the preimage store. -/
def step (deps : ServiceDeps) (s : State) : Action → Option (State × List Event)
  | .createQuery input options now newQueryId newChallengeNonce =>
    match doCreateQuery deps input options now newQueryId newChallengeNonce with
    | .error _ => some (s, [])
    | .ok query =>
      some ({ s with store := s.store.set query.id query, minted := newQueryId :: s.minted },
        [.created query])
  | .submitQueryResult id result submissionMeta oracleId blossomKeys now =>
    some (s.begin (doSubmitQueryResult deps s.store s.registry s.nextCall id result submissionMeta
      oracleId blossomKeys now))
  | .cancelQuery id => some ({ s with store := commit s.store (doCancelQuery s.store id).1 }, [])
  | .expireQueries now => some ({ s with store := (doExpireQueries s.store now).1 }, [])
  | .purgeExpiredFromStore =>
    some ({ s with store := (doPurgeExpired s.store).1 },
      (doPurgeExpired s.store).2.map fun q => .purged q.id)
  | .clearQueryStore => some ({ s with store := .empty }, [])
  | .recordOffer queryId offer =>
    some ({ s with store := commit s.store (doRecordOffer s.store queryId offer).1 },
      if (doRecordOffer s.store queryId offer).2.ok then [.offerRecorded queryId offer] else [])
  | .selectProvider queryId providerPubkey escrowToken =>
    some (s.begin (doSelectProvider deps s.store s.nextCall queryId providerPubkey escrowToken))
  | .beginWork queryId =>
    some ({ s with store := commit s.store (doBeginWork s.store queryId).1 }, [])
  | .recordResult queryId result providerPubkey blossomKeys now =>
    some ({ s with
      store := commit s.store
        (doRecordResult deps s.store queryId result providerPubkey blossomKeys now).1 }, [])
  | .completeVerification queryId passed oracleId =>
    some ({ s with
      store := commit s.store (doCompleteVerification s.store queryId passed oracleId).1 }, [])
  | .submitEscrowResult queryId result providerPubkey oracleId blossomKeys now =>
    some (s.begin (doSubmitEscrowResult deps s.store s.registry s.nextCall queryId result
      providerPubkey oracleId blossomKeys now))
  | .resume call answer now =>
    match s.calls.get? call with
    | none => none
    | some p => (p.resume deps call now answer).map (s.continue call)
  | .serve call =>
    match s.calls.get? call with
    | none => none
    | some p => s.serve call p
  | .registerOracle oracle =>
    some ({ s with registry := s.registry.map (·.register oracle) }, [])
  | .setPreimages preimages => some ({ s with preimages := preimages }, [])

/-- A run is an interleaving at `await` points, and every interleaving is a run. -/
def queryService (deps : ServiceDeps) : Machine State Action Event where
  step := step deps

end Anchr.Requests
