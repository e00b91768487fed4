import Anchr.Customer.Request
import Anchr.Infra.EventLoop
import Anchr.Oracle.Service
import Anchr.Provider.Job

/-!
# A Customer, a Provider and an Oracle on the in-memory relay

The three parties as one service, on the event loop of a process with the relay of
`packages/sdk/src/testing/relay.ts`. The relay answers at once. State-store writes, handlers,
clients and timers take any time.
-/

namespace Anchr.Exchange

open Infra Protocol

/-! ## Filters -/

/-- `Filter`; `tags` are the entries whose name begins with `#`. -/
structure Filter where
  kinds : Option (List Nat) := none
  authors : Option (List String) := none
  tags : List (String × List String) := []

def matchesFilter (filter : Filter) (event : Protocol.Event) : Bool :=
  filter.kinds.all (fun kinds => kinds.contains event.kind) &&
    filter.authors.all (fun authors => authors.contains event.pubkey) &&
    filter.tags.all fun (tag, values) => values.any fun value =>
      event.tags.any fun entry => entry[0]? = some tag ∧ entry[1]? = some value

/-- Of the Customer, for offers. -/
def offersFilter (requestEventId : String) : Filter where
  kinds := some [7000]
  tags := [("e", [requestEventId])]

/-- Of `waitForSelection`. -/
def selectionFilter (requestEventId customerPubkey : String) : Filter where
  kinds := some [7000]
  tags := [("e", [requestEventId])]
  authors := some [customerPubkey]

/-- Of the Customer, for the result. -/
def resultFilter (requestEventId providerPubkey : String) : Filter where
  kinds := some [6300]
  tags := [("e", [requestEventId])]
  authors := some [providerPubkey]

/-- Of `waitForPreimage`. -/
def releaseFilter (oraclePubkey providerPubkey : String) : Filter where
  kinds := some [4]
  authors := some [oraclePubkey]
  tags := [("p", [providerPubkey])]

/-! ## Parties -/

/-- A Customer, a Provider and an Oracle, each with any number of calls. -/
structure Parties (N : NostrTools) where
  customer : Customer.CustomerContext
  provider : Provider.JobContext N
  oracle : Oracle.Config N
  /-- They run in one process, and numbers are written the same way. -/
  text : provider.text = customer.text
  relayUrl : String := "mock://in-memory-relay"

/-- What each party remembers. -/
structure Tables where
  customer : Customer.Tables := {}
  provider : Provider.Tables := {}
  oracle : Oracle.Tables

/-- A suspended call of one of the parties. -/
inductive Pending {N : NostrTools} (cfg : Parties N) where
  | customer (p : Customer.Pending N cfg.customer)
  | provider (p : Provider.Pending cfg.provider)
  | oracle (p : Oracle.Pending)

/-- An event of one of the parties. -/
inductive PartyEvent where
  | customer (e : Customer.Event)
  | provider (e : Provider.Event)
  | oracle (e : Oracle.Event)

abbrev Event := Nat × PartyEvent

/-- A call of one of the parties. -/
inductive Start where
  | request (a : Customer.RequestOptions × Customer.Draws)
  | job (event : Protocol.Event)
  | oracle (request : Oracle.Request)

/-- An answer to one of the parties. -/
inductive Answer where
  | customer (b : Customer.Answer × Customer.Draws)
  | provider (b : Provider.Answer × Provider.Draws)
  | oracle (b : Oracle.Answer × Moment)

/-- What the surroundings give in a turn. -/
structure Draws where
  customer : Customer.Draws
  provider : Provider.Draws
  oracle : Moment
  preimage : String

section

variable {N : NostrTools} (cfg : Parties N)

def begin (t : Tables) (call : Nat) : Start → CallTurn Tables (Pending cfg) Event
  | .request a =>
    ((Customer.customerService N cfg.customer).begin t.customer call a).embed
      (fun customer => { t with customer }) .customer fun e => (call, .customer e)
  | .job event =>
    ((Provider.providerService cfg.provider).begin t.provider call event).embed
      (fun provider => { t with provider }) .provider fun e => (call, .provider e)
  | .oracle request =>
    ((Oracle.oracleService cfg.oracle).begin t.oracle call request).embed
      (fun oracle => { t with oracle }) .oracle fun e => (call, .oracle e)

def resume (t : Tables) (call : Nat) (p : Pending cfg) (b : Answer) :
    Option (CallTurn Tables (Pending cfg) Event) :=
  match p, b with
  | .customer p, .customer b =>
    ((Customer.customerService N cfg.customer).resume t.customer call p b).map fun turn =>
      turn.embed (fun customer => { t with customer }) .customer fun e => (call, .customer e)
  | .provider p, .provider b =>
    ((Provider.providerService cfg.provider).resume t.provider call p b).map fun turn =>
      turn.embed (fun provider => { t with provider }) .provider fun e => (call, .provider e)
  | .oracle p, .oracle b =>
    ((Oracle.oracleService cfg.oracle).resume t.oracle call p b).map fun turn =>
      turn.embed (fun oracle => { t with oracle }) .oracle fun e => (call, .oracle e)
  | _, _ => none

/-- The parties. -/
def service : CallService Tables (Pending cfg) Event Start Answer where
  begin := begin cfg
  resume := resume cfg

/-! ## Use of the relay -/

/-- What is published with an event. -/
def PartyEvent.published : PartyEvent → Option Protocol.Event
  | .customer (.hashRequestPublished _ event) | .customer (.requestPublished _ event)
  | .customer (.selectionPublished _ event) => some event
  | .provider (.offerPublished _ _ event) | .provider (.hashRequestPublished _ event)
  | .provider (.resultPublished _ event) => some event
  | .oracle (.hashSent _ _ _ _ event) | .oracle (.preimagePublished _ _ _ _ _ event)
  | .oracle (.rejectionPublished _ _ _ _ event) | .oracle (.signaturePublished _ _ _ _ event) =>
    some event
  | _ => none

variable {cfg}

/-- Where a party awaits the publication that it expects a reply to. -/
def Pending.sends : Pending cfg → Bool
  | .customer (.publishingRequest _) | .customer (.publishingSelection _)
  | .provider (.publishingOffer _) | .provider (.publishingResult _) => true
  | _ => false

/-- Where it awaits the state-store write that follows. -/
def Pending.writes : Pending cfg → Bool
  | .customer (.writingRequest _) | .customer (.writingSelection _)
  | .provider (.writingOffer _) | .provider (.writingResult _) => true
  | _ => false

/-- The waits for offers, for the selection, for the result and for the preimage are subscriptions.
The exchange of the hash is left open: a wait for a hash may get any event at any time, and may time
out at any time. -/
def Pending.wait : Pending cfg → Option Filter
  | .customer (.collectingOffers r _) => some (offersFilter r.requestEvent.id)
  | .customer (.awaitingResult r) =>
    some (resultFilter r.requestEvent.id r.selected.providerPubkey)
  | .provider (.awaitingSelection job) =>
    some (selectionFilter job.event.id job.payload.customerPubkey)
  | .provider (.awaitingPreimage job) =>
    some (releaseFilter job.payload.oraclePubkey cfg.provider.identity.publicKey)
  | _ => none

/-- Offers are collected; the other waits end with the first event that their matcher takes. -/
def Pending.hears (p : Pending cfg) (event : Protocol.Event) (x : Draws) :
    Option (Hearing Answer) :=
  match p with
  | .customer (.collectingOffers _ _) => some (.stays (.customer (.relayEvent event, x.customer)))
  | .customer (.awaitingResult _) => some (.ends (.customer (.relayEvent event, x.customer)))
  | .provider (.awaitingSelection job) =>
    (Provider.matchSelection cfg.provider job.payload.customerPubkey event).map fun _ =>
      .ends (.provider (.relayEvent event, x.provider))
  | .provider (.awaitingPreimage job) =>
    (Oracle.matchPreimage N cfg.provider.text cfg.provider.identity job.payload.oraclePubkey
      job.payload.queryId job.event.id event).map fun _ =>
        .ends (.provider (.relayEvent event, x.provider))
  | _ => none

/-- The window for offers is closed by the call itself. -/
def Pending.late : Pending cfg → Bool
  | .customer (.collectingOffers _ _) => true
  | _ => false

/-- The relay's answer to `publish`. -/
def Pending.relayed (p : Pending cfg) (x : Draws) : Answer :=
  match p with
  | .customer _ => .customer (.published [cfg.relayUrl] [], x.customer)
  | .provider _ => .provider (.published [cfg.relayUrl], x.provider)
  | .oracle _ => .oracle (.published [cfg.relayUrl], x.oracle)

/-- Only time ends a wait from outside; all else may get any answer. -/
def Pending.answers (p : Pending cfg) (b : Answer) : Bool :=
  if p.wait.isSome then
    match b with
    | .customer (.timedOut, _) | .provider (.timedOut, _) => true
    | _ => false
  else true

/-- The standing subscriptions, which may have any filter. -/
inductive Listener where
  /-- Of `serve`. -/
  | serve
  /-- Of `serveHashRequests`. -/
  | hashRequests
  /-- Of `watchRequest`. -/
  | feedback (queryId : String)
  | response (queryId : String)

def Listener.spawn (listener : Listener) (event : Protocol.Event) (x : Draws) : Start :=
  match listener with
  | .serve => .job event
  | .hashRequests => .oracle (.directMessage event x.preimage x.oracle)
  | .feedback queryId => .oracle (.feedbackEvent queryId event)
  | .response queryId => .oracle (.responseEvent queryId event x.oracle)

variable (cfg) in
/-- How they use the relay. -/
def loop : EventLoop Tables (Pending cfg) Event Start Answer Protocol.Event Filter Listener Draws
    where
  service := service cfg
  accepts := matchesFilter
  published e := e.2.published
  sends := Pending.sends
  relayed := Pending.relayed
  wait := Pending.wait
  hears := Pending.hears
  late := Pending.late
  answers := Pending.answers
  spawn := Listener.spawn

variable (cfg) in
abbrev State := LoopState Tables (Pending cfg) Answer Protocol.Event Filter Listener

variable (cfg) in
def initialState (t : Tables) : State cfg where
  calls := { shared := t }

end

end Anchr.Exchange
