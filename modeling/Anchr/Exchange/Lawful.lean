import Anchr.Customer.History
import Anchr.Exchange.System
import Anchr.Infra.EventLoopReplies
import Anchr.Oracle.Properties.Delivery

/-!
# The parties keep the rules of the loop

The rules of the loop, for each of the parties.
-/

namespace Anchr.Exchange

open Infra Protocol

variable {N : NostrTools} {cfg : Parties N}

/-! ## Publications are awaited where they are made -/

section

variable {t : Customer.Tables} {call : Nat}

variable (cfg) in
/-- A turn after which the Customer awaits a publication has made one. -/
abbrev CustomerAnnounces (turn : Customer.Turn N cfg.customer) : Prop :=
  turn.Announces (fun p => (Pending.customer p : Pending cfg).sends)
    fun e => (PartyEvent.customer e).published.isSome

variable {events : List Customer.Event} {draws : Customer.Draws}
  {r : Customer.Request N cfg.customer}

theorem customerAnnounces_rejected {reason : Customer.Thrown} :
    CustomerAnnounces cfg (Customer.rejected t call events reason) :=
  .ended rfl

theorem customerAnnounces_lockFailed {lock : Customer.CashuToken} {key : String}
    {err : Customer.Thrown} :
    CustomerAnnounces cfg (Customer.lockFailed t call events lock key err) := by
  rw [Customer.lockFailed_eq]
  exact customerAnnounces_rejected

theorem customerAnnounces_hashReady {hash : String} :
    CustomerAnnounces cfg (Customer.hashReady t call r hash draws) :=
  fun _ _ _ => ⟨_, List.mem_singleton_self _, rfl⟩

theorem customerAnnounces_hashSettled (hash : Option String) :
    CustomerAnnounces cfg (Customer.hashSettled t call r draws hash) := by
  cases hash with
  | none => exact customerAnnounces_rejected
  | some hash => exact customerAnnounces_hashReady

theorem customerAnnounces_sendSelection {r : Customer.Bound N cfg.customer} :
    CustomerAnnounces cfg (Customer.sendSelection t call events r draws) := by
  unfold Customer.sendSelection
  split
  next => exact customerAnnounces_lockFailed
  exact fun _ _ _ => ⟨_, List.mem_concat_self, rfl⟩

theorem customerAnnounces_resultAccepted {r : Customer.Sent N cfg.customer}
    {response : QueryResponsePayload} :
    CustomerAnnounces cfg (Customer.resultAccepted t call events r response draws) := by
  unfold Customer.resultAccepted
  split
  next => exact .elsewhere rfl rfl
  next => exact .ended rfl

theorem customerAnnounces_begin (a : Customer.RequestOptions × Customer.Draws) :
    CustomerAnnounces cfg (Customer.request t call a) := by
  unfold Customer.request Customer.requestHash
  dsimp only
  repeat' split
  all_goals first | exact .ended rfl | exact .elsewhere rfl rfl

theorem customerAnnounces_resume {p : Customer.Pending N cfg.customer}
    {b : Customer.Answer × Customer.Draws} {turn : Customer.Turn N cfg.customer}
    (h : Customer.resume N cfg.customer t call p b = some turn) : CustomerAnnounces cfg turn := by
  unfold Customer.resume at h
  split at h
  all_goals
    cases h
    first
      | unfold Customer.threw | unfold Customer.hashRequestSent | unfold Customer.hashArrived
      | unfold Customer.requestSent | unfold Customer.offersCollected | unfold Customer.lockBound
      | unfold Customer.selectionSent | unfold Customer.resultArrived
      | unfold Customer.proofVerified | skip
    try dsimp only
    repeat' split
  -- every branch ends the call, awaits something else, or has just published
  all_goals
    first
      | exact .ended rfl | exact .elsewhere rfl rfl | exact customerAnnounces_lockFailed
      | exact customerAnnounces_hashReady | exact customerAnnounces_hashSettled _
      | exact customerAnnounces_sendSelection | exact customerAnnounces_resultAccepted

end

section

variable {t : Provider.Tables} {call : Nat}

variable (cfg) in
abbrev ProviderAnnounces (turn : Provider.Turn cfg.provider) : Prop :=
  turn.Announces (fun p => (Pending.provider p : Pending cfg).sends)
    fun e => (PartyEvent.provider e).published.isSome

theorem providerAnnounces_begin (event : Protocol.Event) :
    ProviderAnnounces cfg (Provider.handleJob cfg.provider t call event) := by
  unfold Provider.handleJob
  repeat' split
  all_goals first | exact .ended rfl | exact .elsewhere rfl rfl

theorem providerAnnounces_requestHash {events : List Provider.Event}
    {job : Provider.Selected cfg.provider} {draws : Provider.Draws} :
    ProviderAnnounces cfg (Provider.requestHash t call events job draws) := by
  unfold Provider.requestHash
  dsimp only
  repeat' split
  all_goals first | exact .ended rfl | exact .elsewhere rfl rfl

theorem providerAnnounces_resume {p : Provider.Pending cfg.provider}
    {b : Provider.Answer × Provider.Draws} {turn : Provider.Turn cfg.provider}
    (h : Provider.resume cfg.provider t call p b = some turn) : ProviderAnnounces cfg turn := by
  unfold Provider.resume at h
  split at h
  all_goals
    cases h
    first
      | unfold Provider.handlerReturned | unfold Provider.offerSent
      | unfold Provider.selectionArrived | unfold Provider.hashRequestSent
      | unfold Provider.hashArrived | unfold Provider.produceReturned | unfold Provider.resultSent
      | unfold Provider.preimageArrived | unfold Provider.redeemed | skip
    repeat' split
  all_goals
    first
      | exact .ended rfl | exact .elsewhere rfl rfl | exact providerAnnounces_requestHash
      | exact fun _ _ _ => ⟨_, List.mem_singleton_self _, rfl⟩
      | exact fun _ _ _ => ⟨_, List.mem_cons_of_mem _ (List.mem_singleton_self _), rfl⟩

end

theorem oracle_announces {turn : CallTurn Oracle.Tables Oracle.Pending Oracle.Event}
    (shared : Oracle.Tables → Tables) (call : Nat) :
    (turn.embed shared (Pending.oracle : Oracle.Pending → Pending cfg)
      fun e => (call, PartyEvent.oracle e)).Announces Pending.sends
        fun e => e.2.published.isSome := by
  intro q hq hsends
  obtain ⟨p, -, rfl⟩ := Option.map_eq_some_iff.mp hq
  cases hsends

theorem collecting_of_stays {p : Pending cfg} {event : Protocol.Event} {x : Draws} {b : Answer}
    (h : p.hears event x = some (.stays b)) :
    ∃ r collected, p = .customer (.collectingOffers r collected) ∧
      b = .customer (.relayEvent event, x.customer) := by
  unfold Pending.hears at h
  split at h
  next r collected =>
    cases h
    exact ⟨r, collected, rfl, rfl⟩
  next => cases h
  next =>
    obtain ⟨_, -, h⟩ := Option.map_eq_some_iff.mp h
    cases h
  next =>
    obtain ⟨_, -, h⟩ := Option.map_eq_some_iff.mp h
    cases h
  next => cases h

/-- What the order of microtasks relies on. -/
theorem lawful (cfg : Parties N) : (loop cfg).Lawful Prod.fst where
  names :=
    { begin := by
        intro t call a e he
        cases a <;>
        · obtain ⟨_, -, rfl⟩ := List.mem_map.mp he
          rfl
      resume := by
        intro t call p b turn hturn e he
        cases p <;> cases b <;> try cases hturn
        all_goals
          obtain ⟨turn, -, rfl⟩ := Option.map_eq_some_iff.mp hturn
          obtain ⟨_, -, rfl⟩ := List.mem_map.mp he
          rfl }
  begin_sends t call a := by
    cases a with
    | request a => exact CallTurn.Announces.embed _ _ _ (customerAnnounces_begin a)
    | job event => exact CallTurn.Announces.embed _ _ _ (providerAnnounces_begin event)
    | oracle request => exact oracle_announces _ _
  resume_sends := by
    intro t call p b turn hturn
    cases p <;> cases b <;> try cases hturn
    all_goals obtain ⟨turn, hresume, rfl⟩ := Option.map_eq_some_iff.mp hturn
    next => exact CallTurn.Announces.embed _ _ _ (customerAnnounces_resume hresume)
    next => exact CallTurn.Announces.embed _ _ _ (providerAnnounces_resume hresume)
    next => exact oracle_announces _ _
  stays := by
    intro t call p event x b turn hhears hturn
    obtain ⟨r, collected, rfl, rfl⟩ := collecting_of_stays hhears
    cases hturn
    exact ⟨rfl, _, rfl, rfl, rfl⟩

/-! ## Messages of the Oracle -/

def Pending.Addressed : Pending cfg → Prop
  | .oracle p => p.Addressed cfg.oracle
  | _ => True

/-- The Oracle's messages are addressed to their Providers in every run. -/
theorem places_addressed (cfg : Parties N) : (loop cfg).Places Pending.Addressed where
  begin := by
    intro t call a p hp
    cases a with
    | oracle request =>
      obtain ⟨q, hq, rfl⟩ := Option.map_eq_some_iff.mp hp
      exact (Oracle.addressed_begin request).pending q hq
    | request | job =>
      obtain ⟨q, -, rfl⟩ := Option.map_eq_some_iff.mp hp
      trivial
  resume := by
    intro t call p b turn q hp hturn hq
    cases p <;> cases b <;> try cases hturn
    all_goals
      obtain ⟨turn, hresume, rfl⟩ := Option.map_eq_some_iff.mp hturn
      obtain ⟨q, hpending, rfl⟩ := Option.map_eq_some_iff.mp hq
    next => trivial
    next => trivial
    next => exact (Oracle.addressed_resume hp hresume).pending q hpending

end Anchr.Exchange
