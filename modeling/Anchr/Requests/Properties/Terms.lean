import Anchr.Requests.Properties.Coherence

/-!
# The terms of a query

Suspended calls write records they made from what they read earlier, so two of them can undo each
other's work. They cannot change what was asked.
-/

namespace Anchr.Requests

open Infra

/-- The escrow without what a selection writes. -/
def EscrowInfo.terms (escrow : EscrowInfo) : EscrowInfo :=
  { escrow with
    providerPubkey := none, escrowToken := none, verifiedEscrowSats := none, escrowRef := none }

/-- The record without what any method but `createQuery` writes. -/
def Query.terms (query : Query) : Query :=
  { query with
    status := .pending, paymentStatus := .locked, offers := none
    escrow := query.escrow.map EscrowInfo.terms
    result := none, submittedAt := none, submissionMeta := none, blossomKeys := none
    verification := none, assignedOracleId := none, attestations := none }

end Anchr.Requests
