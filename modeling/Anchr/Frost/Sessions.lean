import Anchr.Infra.CallService
import Anchr.Infra.Tickets
import Anchr.Proofs.Contract

/-!
# Signing sessions

What the two peer signers share: the HTTP routes of a node (`frost-signer-routes.ts`) and the
`FrostSigner` object (`frost-signer.ts`). Both keep the nonces of round 1 in a table under a random
id, with the message they were made for, and remove the entry when round 2 reads it.
-/

namespace Anchr.Frost

open Infra Proofs

/-! ## The sidecar -/

/-- `FrostCliResult` of `payments/frost/frost-cli.ts`. -/
structure FrostCliResult where
  ok : Bool
  data : Option Json := none
  error : Option String := none

/-- `result.data!.name`: `none` is a thrown `TypeError`, and `some none` is `undefined`. -/
def FrostCliResult.member (result : FrostCliResult) (name : String) : Option (Option Json) :=
  match result.data with
  | none | some .null => none
  | some data => some (data.get? name)

structure SignRound2Args where
  keyPackage : String
  noncesJson : Option String
  commitmentsJson : String
  messageHex : String

/-- Round-1 state: the nonces and the message the verified requirement binds. `JSON.stringify` of
an absent member is `undefined`. -/
structure PendingNonceSession where
  noncesJson : Option String
  messageHex : String

/-- `pendingNonces` of a node, `pendingSessions` of a `FrostSigner`. -/
abbrev SessionTable := TicketTable PendingNonceSession

/-! ## Events -/

inductive Round where
  | one
  | two

/-- What happens at a signer; `ρ` is what it answers. -/
inductive SignerEvent (ρ : Type) where
  /-- The signer starts to verify, for a request of the given round. -/
  | called (call : Nat) (round : Round) (requirement : VerificationRequirement)
      (input : VerificationInput) (message : String)
  | verified (call : Nat) (requirement : VerificationRequirement) (input : VerificationInput)
      (passed : Bool)
  | signRound1 (call : Nat) (keyPackage : String)
  | noncesCreated (call : Nat) (sessionId : String) (session : PendingNonceSession)
  | signRound2 (call : Nat) (sessionId : String) (args : SignRound2Args)
  | answered (call : Nat) (reply : ρ)

/-- What a suspended signer gets. A session id is what `crypto.randomUUID()` draws after
`signRound1`. -/
inductive SignerAnswer where
  | threw
  | verified (detail : Requests.VerificationDetail)
  | signedRound1 (result : FrostCliResult) (sessionId : String)
  | signedRound2 (result : FrostCliResult)

variable {ρ : Type}

def SignerEvent.made : SignerEvent ρ → Option String
  | .noncesCreated _ sessionId _ => some sessionId
  | _ => none

/-- The id whose nonces are used. -/
def SignerEvent.used : SignerEvent ρ → Option String
  | .signRound2 _ sessionId _ => some sessionId
  | _ => none

/-! ## What precedes the use of nonces -/

/-- A round-1 request for the session's message passed verification, and the session is its. -/
def CreatedIn (tr : List (SignerEvent ρ)) (sessionId : String) (session : PendingNonceSession) :
    Prop :=
  ∃ call requirement input, .called call .one requirement input session.messageHex ∈ tr ∧
    .verified call requirement input true ∈ tr ∧ .noncesCreated call sessionId session ∈ tr

/-- Nonces are made under a new session id. They are used at most once, and then for the message
of the verified round-1 request that made them. -/
def NonceJustified (tr : List (SignerEvent ρ)) : SignerEvent ρ → Prop
  | .noncesCreated _ sessionId _ => ∀ e ∈ tr, e.made ≠ some sessionId
  | .signRound2 _ sessionId args =>
    (∃ session, CreatedIn tr sessionId session ∧ args.noncesJson = session.noncesJson ∧
      args.messageHex = session.messageHex) ∧
    ∀ e ∈ tr, e.used ≠ some sessionId
  | _ => True

def SessionsExplained (tr : List (SignerEvent ρ)) (t : SessionTable) : Prop :=
  t.Explained SignerEvent.made SignerEvent.used CreatedIn tr

theorem CreatedIn.mono {tr evs : List (SignerEvent ρ)} {sessionId : String}
    {session : PendingNonceSession} (h : CreatedIn tr sessionId session) :
    CreatedIn (tr ++ evs) sessionId session := by
  obtain ⟨call, requirement, input, hcalled, hverified, hcreated⟩ := h
  exact ⟨call, requirement, input, List.mem_append_left _ hcalled,
    List.mem_append_left _ hverified, List.mem_append_left _ hcreated⟩

/-! ## Turns -/

section

variable {π : Type} {E : List (SignerEvent ρ) → Nat → π → Prop}
  {J : List (SignerEvent ρ) → SignerEvent ρ → Prop} {tr evs : List (SignerEvent ρ)}
  {t : SessionTable} {call : Nat} {pending : Option π}

theorem explained_plain (ht : SessionsExplained tr t) (hevs : JustifiedAfter J tr evs)
    (hplain : ∀ e ∈ evs, e.made = none ∧ e.used = none)
    (hpending : ∀ p, pending = some p → E (tr ++ evs) call p) :
    CallTurn.Explained SessionsExplained E J tr call
      { shared := t, events := evs, pending := pending } where
  events := hevs
  shared := ht.keep CreatedIn.mono (fun e he => (hplain e he).1) (fun e he => (hplain e he).2)
  pending := hpending

theorem explained_over (ht : SessionsExplained tr t) :
    CallTurn.Explained SessionsExplained E J tr call { shared := t } :=
  explained_plain ht trivial (fun e he => by cases he) (fun p hp => by cases hp)

variable {session : PendingNonceSession} {sessionId : String}

theorem explained_store {requirement : VerificationRequirement} {input : VerificationInput}
    {reply : ρ} (ht : SessionsExplained tr t) (hfresh : sessionId ∉ t.issued)
    (hcalled : .called call .one requirement input session.messageHex ∈ tr)
    (hverified : .verified call requirement input true ∈ tr)
    (hevs : JustifiedAfter J tr [.noncesCreated call sessionId session, .answered call reply]) :
    CallTurn.Explained SessionsExplained E J tr call
      { shared := t.store sessionId session
        events := [.noncesCreated call sessionId session, .answered call reply] } where
  events := hevs
  shared := by
    refine TicketTable.Explained.store CreatedIn.mono ht hfresh ?_ ?_ ?_
    · refine ⟨call, requirement, input, List.mem_append_left _ hcalled,
        List.mem_append_left _ hverified, List.mem_append_right _ ?_⟩
      exact List.mem_cons_self
    · simp [SignerEvent.made]
    · simp [SignerEvent.used]
  pending p hp := by cases hp

theorem nonceJustified_signRound2 {args : SignRound2Args} (ht : SessionsExplained tr t)
    (hget : t.entries.get? sessionId = some session)
    (hnonces : args.noncesJson = session.noncesJson)
    (hmessage : args.messageHex = session.messageHex) :
    NonceJustified tr (.signRound2 call sessionId args) :=
  ⟨⟨session, ht.origin _ _ hget, hnonces, hmessage⟩, ht.unused _ _ hget⟩

theorem nonceJustified_noncesCreated (ht : SessionsExplained tr t) (hfresh : sessionId ∉ t.issued) :
    NonceJustified tr (.noncesCreated call sessionId session) :=
  fun e he heq => hfresh (ht.made e he _ heq)

theorem explained_consume (ht : SessionsExplained tr t)
    (hget : t.entries.get? sessionId = some session) (hevs : JustifiedAfter J tr evs)
    (hmade : ∀ e ∈ evs, e.made = none) (hused : ∀ e ∈ evs, ∀ id, e.used = some id → id = sessionId)
    (hpending : ∀ p, pending = some p → E (tr ++ evs) call p) :
    CallTurn.Explained SessionsExplained E J tr call
      { shared := t.consume sessionId, events := evs, pending := pending } where
  events := hevs
  shared := ht.consume CreatedIn.mono hget hmade hused
  pending := hpending

end

end Anchr.Frost
