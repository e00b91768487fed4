import Anchr.Exchange.Properties.Replies
import Anchr.Provider.Properties.VerifiedLock

/-!
# The parties on the relay

A party that shares a process and a relay with the others does nothing it does not do by itself, so
its safety does not depend on them.
-/

namespace Anchr.Exchange

open Infra Protocol

variable {N : NostrTools}

/-- How far a call has come, and what justifies its events. A request and a job go through their
stages in order, each at most once. A request publishes a selection and returns a result only with
the lock that is bound, and is settled when it is over. A job works, publishes a result and redeems
only under the lock that was verified for its own selection. -/
inductive OnCourse (cfg : Parties N) (call : Nat) : List Event → Option (Pending cfg) → Prop
  | request {evs o} (h : (Customer.stages N cfg.customer fun _ _ _ => True).Progress call evs o) :
      OnCourse cfg call (evs.map fun e => (call, .customer e)) (o.map .customer)
  | job {event evs o} (hstarted : evs.head? = some (.jobStarted call event))
      (h : (Provider.stages cfg.provider event).Progress call evs o) :
      OnCourse cfg call (evs.map fun e => (call, .provider e)) (o.map .provider)
  | oracle {a evs o} (h : (Oracle.oracleService cfg.oracle).Trace call a evs o) :
      OnCourse cfg call (evs.map fun e => (call, .oracle e)) (o.map .oracle)

variable {cfg : Parties N} {call : Nat} {t : Tables}

/-- The first turn of a call of any party is on course. -/
theorem onCourse_begin (a : Start) :
    OnCourse cfg call (begin cfg t call a).events (begin cfg t call a).pending := by
  cases a with
  | request a => exact .request (.begin (Customer.advances_request t.customer call a))
  | job event =>
    exact .job (Provider.started_of_trace (.begin t.provider))
      (.begin (Provider.advances_handleJob t.provider call event))
  | oracle a => exact .oracle (.begin t.oracle)

/-- So is every later one: an answer takes a call on only if it is one for its own party. -/
theorem OnCourse.resume {evs : List Event} {p : Pending cfg} {o : Option (Pending cfg)} {b : Answer}
    {turn : CallTurn Tables (Pending cfg) Event} (h : OnCourse cfg call evs o) (ho : o = some p)
    (hturn : resume cfg t call p b = some turn) :
    OnCourse cfg call (evs ++ turn.events) turn.pending := by
  cases h <;> obtain ⟨q, rfl, rfl⟩ := Option.map_eq_some_iff.mp ho <;> cases b
  case request.customer h _ =>
    obtain ⟨turn, hresume, rfl⟩ := Option.map_eq_some_iff.mp hturn
    have hturn := Customer.advances_of_resume (fun _ _ _ _ _ => trivial) hresume
    exact List.map_append ▸ OnCourse.request (h.resume hturn)
  case job.provider hstarted h _ =>
    obtain ⟨turn, hresume, rfl⟩ := Option.map_eq_some_iff.mp hturn
    have hturn := Provider.advances_of_resume hresume
    rw [h.about q rfl] at hturn
    refine List.map_append ▸ OnCourse.job ?_ (h.resume hturn)
    rw [List.head?_append, hstarted]
    rfl
  case oracle.oracle h _ =>
    obtain ⟨turn, hresume, rfl⟩ := Option.map_eq_some_iff.mp hturn
    exact List.map_append ▸ OnCourse.oracle (h.resume hresume)
  -- the answer is one for another party
  all_goals cases hturn

variable {G : State cfg → LoopAction Start Answer Filter Listener Draws → Prop} {tr : List Event}
  {s : State cfg}

/-- Whatever the parties do on the relay, with any number of calls, each call stays on course. -/
theorem calls_on_course (hrun : Run (loop cfg).machine G (initialState cfg t) tr s)
    (hcall : call < s.calls.nextCall) :
    OnCourse cfg call (ownEvents Prod.fst call tr) (s.calls.calls.get? call) := by
  obtain ⟨s', hrun', hlike⟩ := EventLoop.service_run hrun
  have hnames : (service cfg).Names Prod.fst := (lawful cfg).names
  have hall : Histories (OnCourse cfg) Prod.fst tr s' :=
    hnames.histories_of_run (fun _ => onCourse_begin _) (fun _ _ hturn h => h.resume rfl hturn) rfl
      rfl hrun'
  rw [hlike.calls]
  exact hall.begun call (hlike.nextCall ▸ hcall)

/-- The Customer's request reaches the Provider, and it offers. -/
theorem calls_on_course_offering : ∃ tr s, Run (loop (plainParties true)).machine AnyStep
      (initialState (plainParties true) plainTables) tr s ∧
    (1, .provider (.offerPublished 1 (.ofInt 21) (plainOffer true))) ∈ tr ∧
    OnCourse (plainParties true) 1 (ownEvents Prod.fst 1 tr) (s.calls.calls.get? 1) := by
  obtain ⟨tr, hrun⟩ := run_plainOffering true
  have hoffered := hrun.next trivial (step_plainOffering true)
  exact ⟨_, _, hoffered, List.mem_concat_self,
    calls_on_course hoffered (by decide)⟩

end Anchr.Exchange
