import Anchr.Frost.Coordinator
import Anchr.Frost.Signer
import Anchr.Frost.SignerRoutes

/-!
# Coordinating the peers

`coordinateSigning` of `payments/frost/frost-signing-coordinator.ts`: this node and its peers go
through the two rounds, and the shares are aggregated.
-/

namespace Anchr.Frost

open Infra

structure PeerConfig where
  signerIndex : Nat
  endpoint : String
  apiKey : Option String := none

/-- `FrostNodeConfig` as the coordinator reads it. -/
structure SigningNodeConfig extends FrostNodeConfig where
  signerIndex : Nat
  threshold : Nat
  pubkeyPackage : Json
  peers : List PeerConfig

/-- What goes to the peers besides the message; the coordinator does not look into it. -/
structure SigningContext where
  requirement : Option Json := none
  input : Option Json := none
  blossomKeys : Option Json := none
  escrowToken : Option String := none

/-- `index.toString(16).padStart(64, "0")`. -/
def identifierFromIndex (index : Nat) : String := String.ofList (padStart 64 '0' (hexNat index))

theorem identifierFromIndex_injective : Function.Injective identifierFromIndex := by
  intro m n h
  have hchars := congrArg hexNumber (String.ofList_injective h)
  rwa [hexNumber_padStart, hexNumber_padStart, hexNumber_hexNat, hexNumber_hexNat] at hchars

/-! ## Requests to peers -/

structure PeerRequest where
  url : String
  headers : List (String × String)
  body : String

inductive PeerReply where
  /-- `fetch` throws, or is aborted at the timeout. -/
  | failed
  /-- `!res.ok`. -/
  | notOk (status : Nat)
  /-- `res.json()` throws. -/
  | notJson
  | json (data : Json)

/-- The data whose members are read. Reading a member of `null` throws. -/
def PeerReply.data : PeerReply → Option Json
  | .json .null => none
  | .json data => some data
  | _ => none

def buildHeaders (apiKey : Option String) : List (String × String) :=
  ("Content-Type", "application/json") ::
    ((apiKey.filter (· ≠ "")).map fun key => ("x-api-key", key)).toList

def definedMembers (members : List (String × Option Json)) : List (String × Json) :=
  members.filterMap fun m => m.2.map fun value => (m.1, value)

section

variable (T : NumberText)

def round1Request (context : SigningContext) (messageHex : String) (peer : PeerConfig) :
    PeerRequest where
  url := peer.endpoint ++ "/frost/signer/round1"
  headers := buildHeaders peer.apiKey
  body := (Json.obj (definedMembers [("message", some (.str messageHex)),
    ("requirement", context.requirement), ("input", context.input),
    ("blossom_keys", context.blossomKeys),
    ("escrow_token", context.escrowToken.map .str)])).stringify T

def round2Request (commitmentsJson messageHex : String) (peer : PeerConfig)
    (nonceId : Option Json) : PeerRequest where
  url := peer.endpoint ++ "/frost/signer/round2"
  headers := buildHeaders peer.apiKey
  body := (Json.obj (definedMembers [("commitments", some (.str commitmentsJson)),
    ("message", some (.str messageHex)), ("nonce_id", nonceId)])).stringify T

end

/-! ## The loops -/

/-- What this node's sidecar and the peers answer. Peers are told apart by their place: in the list
of peers in round 1, among those that take part in round 2. `none` is a throw of the sidecar. -/
structure SigningWorld where
  signRound1 : Option FrostCliResult
  round1 : Nat → PeerRequest → PeerReply
  signRound2 : SignRound2Args → Option FrostCliResult
  round2 : Nat → PeerRequest → PeerReply

/-- A peer of `participatingPeers`, with its answer to round 1. -/
structure Participant where
  peer : PeerConfig
  answer : Json

def Participant.identifier (p : Participant) : String := identifierFromIndex p.peer.signerIndex

def Participant.nonceId (p : Participant) : Option Json := p.answer.get? "nonce_id"

def Participant.commitments (p : Participant) : Option Json := p.answer.get? "commitments"

abbrev Collected := JsMap String (Option Json)

structure Round1State where
  commitments : Collected
  participatingPeers : List Participant := []

def Round1State.indices (s : Round1State) : List Nat :=
  s.participatingPeers.map fun p => p.peer.signerIndex

def Round1State.add (s : Round1State) (peer : PeerConfig) (data : Json) : Round1State where
  commitments := s.commitments.set (identifierFromIndex peer.signerIndex) (data.get? "commitments")
  participatingPeers := s.participatingPeers ++ [{ peer, answer := data }]

def Round1State.start (node : SigningNodeConfig) (data : Json) : Round1State where
  commitments := JsMap.empty.set (identifierFromIndex node.signerIndex) (data.get? "commitments")

/-- The loop of round 1 from the peer in the given place on. It ends when there are enough
commitments, which is not tested for this node itself and after an answer that is not ok. -/
def round1Peers (node : SigningNodeConfig) (ask : Nat → PeerConfig → PeerReply) :
    Nat → List PeerConfig → Round1State → Round1State
  | _, [], s => s
  | place, peer :: peers, s =>
    if peer.signerIndex = node.signerIndex then round1Peers node ask (place + 1) peers s
    else
      match ask place peer with
      | .notOk _ => round1Peers node ask (place + 1) peers s
      | reply =>
        let s := match reply.data with
          | some data => s.add peer data
          | none => s
        if node.threshold ≤ s.commitments.entries.length then s
        else round1Peers node ask (place + 1) peers s

def round2Peers (ask : Nat → Participant → PeerReply) :
    Nat → List Participant → Collected → Collected
  | _, [], shares => shares
  | place, p :: peers, shares =>
    match (ask place p).data with
    | some data =>
      round2Peers ask (place + 1) peers (shares.set p.identifier (data.get? "signature_share"))
    | none => round2Peers ask (place + 1) peers shares

/-! ## The function -/

/-- The call of `aggregateSignatures`, with the objects whose texts it is given. -/
structure AggregateCall where
  groupPubkey : String
  commitments : List (String × Json)
  message : String
  shares : List (String × Json)
  pubkeyPackage : Json

def AggregateCall.args (T : NumberText) (call : AggregateCall) : AggregateArgs where
  groupPubkey := call.groupPubkey
  commitments := (Json.obj call.commitments).stringify T
  message := call.message
  signatureShares := (Json.obj call.shares).stringify T
  pubkeyPackage := call.pubkeyPackage.stringify T

structure SigningCoordinatorResult where
  signature : Json
  signersParticipated : List Nat

/-- The rounds were gone through: what this node has answered in each, and what was collected. -/
structure Rounds extends Round1State where
  data1 : Json
  data2 : Json
  shares : Collected

/-- A call of `coordinateSigning`. -/
structure SigningCall where
  text : NumberText
  node : SigningNodeConfig
  context : SigningContext := {}
  world : SigningWorld
  messageHex : String

namespace SigningCall

variable (c : SigningCall)

def ask1 (place : Nat) (peer : PeerConfig) : PeerReply :=
  c.world.round1 place (round1Request c.text c.context c.messageHex peer)

def round1 (data : Json) : Round1State :=
  round1Peers c.node c.ask1 0 c.node.peers (.start c.node data)

/-- `JSON.stringify(commitments)`. -/
def collectedText (collected : Collected) : String :=
  (Json.obj (definedMembers collected.entries)).stringify c.text

def round2Args (data : Json) (commitments : Collected) : SignRound2Args where
  keyPackage := c.node.keyPackage.stringify c.text
  noncesJson := (data.get? "nonces").map fun nonces => nonces.stringify c.text
  commitmentsJson := c.collectedText commitments
  messageHex := c.messageHex

def ask2 (r : Round1State) (place : Nat) (p : Participant) : PeerReply :=
  c.world.round2 place
    (round2Request c.text (c.collectedText r.commitments) c.messageHex p.peer p.nonceId)

def round2 (r : Round1State) (data : Json) : Collected :=
  round2Peers (c.ask2 r) 0 r.participatingPeers
    (JsMap.empty.set (identifierFromIndex c.node.signerIndex) (data.get? "signature_share"))

/-- Both rounds; `none` where the function returns or throws before the aggregator. -/
def rounds : Option Rounds := do
  let localR1 ← c.world.signRound1
  let data1 ← localR1.usable
  let r := c.round1 data1
  if r.commitments.entries.length < c.node.threshold then none
  else do
    let localR2 ← c.world.signRound2 (c.round2Args data1 r.commitments)
    let data2 ← localR2.usable
    let shares := c.round2 r data2
    if shares.entries.length < c.node.threshold then none
    else some { r with data1, data2, shares }

def aggregation (r : Rounds) : AggregateCall where
  groupPubkey := c.node.groupPubkey
  commitments := definedMembers r.commitments.entries
  message := c.messageHex
  shares := definedMembers r.shares.entries
  pubkeyPackage := c.node.pubkeyPackage

def participated (r : Rounds) : List Nat :=
  c.node.signerIndex :: r.indices

/-- The call of the aggregator, if there is one, and what the function returns; `none` is `null` or
a throw. -/
def coordinateSigning (aggregate : AggregateArgs → Option FrostCliResult) :
    Option AggregateCall × Option SigningCoordinatorResult :=
  match c.rounds with
  | none => (none, none)
  | some r =>
    let call := c.aggregation r
    (some call, do
      let agg ← aggregate (call.args c.text)
      let signature ← agg.signature
      some { signature, signersParticipated := c.participated r })

end SigningCall

/-! ## What the loops collect -/

def assigned (first : String × Option Json) (rest : List (String × Option Json)) : Collected :=
  rest.foldl (fun m e => m.set e.1 e.2) (JsMap.empty.set first.1 first.2)

variable {rest : List (String × Option Json)} {first : String × Option Json}

theorem mem_assigned {e : String × Option Json} (h : e ∈ (assigned first rest).entries) :
    e = first ∨ e ∈ rest := by
  rcases JsMap.mem_of_foldl_set rest _ h with hrest | hfirst
  · exact .inr hrest
  · rcases JsMap.mem_set.mp hfirst with heq | ⟨hempty, -⟩
    · exact .inl heq
    · simp [JsMap.empty] at hempty

theorem entries_assigned (h : ((first :: rest).map Prod.fst).Nodup) :
    (assigned first rest).entries = first :: rest := by
  have hfirst : (JsMap.empty.set first.1 first.2 : Collected).entries = [first] := by
    rw [JsMap.entries_set_of_not_mem (by simp [JsMap.empty])]
    rfl
  unfold assigned
  rw [JsMap.entries_foldl_set rest _ (by rw [hfirst]; exact h), hfirst]
  rfl

section

variable {node : SigningNodeConfig} {ask : Nat → PeerConfig → PeerReply}

def Round1Answer (node : SigningNodeConfig) (ask : Nat → PeerConfig → PeerReply) (place : Nat)
    (peers : List PeerConfig) (p : Participant) : Prop :=
  ∃ i, peers[i]? = some p.peer ∧ p.peer.signerIndex ≠ node.signerIndex ∧
    (ask (place + i) p.peer).data = some p.answer

variable {p : Participant}

theorem Round1Answer.cons {place : Nat} {peer : PeerConfig} {peers : List PeerConfig}
    (h : Round1Answer node ask (place + 1) peers p) :
    Round1Answer node ask place (peer :: peers) p := by
  obtain ⟨i, hi, hne, hask⟩ := h
  refine ⟨i + 1, by simpa using hi, hne, ?_⟩
  rw [show place + (i + 1) = place + 1 + i from by omega]
  exact hask

/-- What the peers answer to round 1 when all are asked. This node, and answers that are not ok, are
passed over without the test of the threshold, so they are left out. -/
def round1Answers (node : SigningNodeConfig) (ask : Nat → PeerConfig → PeerReply) :
    Nat → List PeerConfig → List (PeerConfig × Option Json)
  | _, [] => []
  | place, peer :: peers =>
    if peer.signerIndex = node.signerIndex then round1Answers node ask (place + 1) peers
    else
      match ask place peer with
      | .notOk _ => round1Answers node ask (place + 1) peers
      | reply => (peer, reply.data) :: round1Answers node ask (place + 1) peers

def participants (answers : List (PeerConfig × Option Json)) : List Participant :=
  answers.filterMap fun a => a.2.map fun data => { peer := a.1, answer := data }

def gather (threshold : Nat) : List (PeerConfig × Option Json) → Round1State → Round1State
  | [], s => s
  | (peer, data) :: answers, s =>
    let s := match data with
      | some data => s.add peer data
      | none => s
    if threshold ≤ s.commitments.entries.length then s else gather threshold answers s

theorem round1Peers_eq_gather (node : SigningNodeConfig) (ask : Nat → PeerConfig → PeerReply) :
    ∀ (peers : List PeerConfig) (place : Nat) (s : Round1State),
      round1Peers node ask place peers s =
        gather node.threshold (round1Answers node ask place peers) s
  | [], _, _ => rfl
  | peer :: peers, place, s => by
    unfold round1Peers round1Answers
    split
    next => exact round1Peers_eq_gather node ask peers (place + 1) s
    split
    next => exact round1Peers_eq_gather node ask peers (place + 1) s
    unfold gather
    dsimp only
    rw [round1Peers_eq_gather node ask peers (place + 1)]

theorem mem_round1Answers {p : Participant} : ∀ {peers : List PeerConfig} {place : Nat},
    (p.peer, some p.answer) ∈ round1Answers node ask place peers →
      Round1Answer node ask place peers p
  | [], _, h => by simp [round1Answers] at h
  | peer :: peers, place, h => by
    unfold round1Answers at h
    split at h
    next => exact (mem_round1Answers h).cons
    next hne =>
      split at h
      next => exact (mem_round1Answers h).cons
      next reply _ =>
        rcases List.mem_cons.mp h with heq | hmem
        · obtain ⟨rfl, hdata⟩ := Prod.mk.inj heq
          exact ⟨0, rfl, hne, hdata.symm⟩
        · exact (mem_round1Answers hmem).cons

theorem mem_participants {answers : List (PeerConfig × Option Json)} (h : p ∈ participants answers) :
    (p.peer, some p.answer) ∈ answers := by
  obtain ⟨⟨peer, data⟩, hmem, heq⟩ := List.mem_filterMap.mp h
  obtain ⟨answer, rfl, rfl⟩ := Option.map_eq_some_iff.mp heq
  exact hmem

def Round1State.addAll (s : Round1State) (added : List Participant) : Round1State where
  commitments := (added.map fun p => (p.identifier, p.commitments)).foldl
    (fun m e => m.set e.1 e.2) s.commitments
  participatingPeers := s.participatingPeers ++ added

theorem Round1State.addAll_nil (s : Round1State) : s.addAll [] = s := by
  unfold Round1State.addAll
  rw [List.append_nil]
  rfl

theorem Round1State.addAll_cons (s : Round1State) (p : Participant) (added : List Participant) :
    s.addAll (p :: added) = (s.add p.peer p.answer).addAll added := by
  unfold Round1State.addAll Round1State.add
  rw [List.append_assoc]
  rfl

theorem gather_eq (threshold : Nat) : ∀ (answers : List (PeerConfig × Option Json))
    (s : Round1State), ∃ added, added <+: participants answers ∧
      gather threshold answers s = s.addAll added
  | [], s => ⟨[], List.nil_prefix, s.addAll_nil.symm⟩
  | (peer, none) :: answers, s => by
    unfold gather
    dsimp only
    split
    next => exact ⟨[], List.nil_prefix, s.addAll_nil.symm⟩
    next => exact gather_eq threshold answers s
  | (peer, some data) :: answers, s => by
    unfold gather
    dsimp only
    split
    next =>
      refine ⟨[{ peer, answer := data }], ⟨participants answers, rfl⟩, ?_⟩
      rw [Round1State.addAll_cons, Round1State.addAll_nil]
    obtain ⟨added, ⟨rest, hrest⟩, heq⟩ := gather_eq threshold answers (s.add peer data)
    refine ⟨{ peer, answer := data } :: added, ⟨rest, ?_⟩, ?_⟩
    · rw [List.cons_append, hrest]
      rfl
    · rw [heq, Round1State.addAll_cons]

theorem length_add (s : Round1State) (peer : PeerConfig) (data : Json)
    (h : identifierFromIndex peer.signerIndex ∉ s.commitments.entries.map Prod.fst) :
    (s.add peer data).commitments.entries.length = s.commitments.entries.length + 1 := by
  show (s.commitments.set _ _).entries.length = _
  rw [JsMap.entries_set_of_not_mem h, List.length_append]
  rfl

/-- It takes as many as are missing, if these have different identifiers. -/
theorem gather_of_nodup (threshold : Nat) : ∀ (answers : List (PeerConfig × Option Json))
    (s : Round1State) (missing : Nat), s.commitments.entries.length + missing = threshold →
      0 < missing →
      (s.commitments.entries.map Prod.fst ++
        ((participants answers).take missing).map Participant.identifier).Nodup →
      gather threshold answers s = s.addAll ((participants answers).take missing)
  | [], s, missing, _, _, _ => by
    rw [show participants [] = [] from rfl, List.take_nil, Round1State.addAll_nil]
    rfl
  | (peer, none) :: answers, s, missing, hthreshold, hpos, hnodup => by
    unfold gather
    dsimp only
    rw [if_neg (by omega)]
    exact gather_of_nodup threshold answers s missing hthreshold hpos hnodup
  | (peer, some data) :: answers, s, 0, _, hpos, _ => by omega
  | (peer, some data) :: answers, s, missing + 1, hthreshold, _, hnodup => by
    have htake : (participants ((peer, some data) :: answers)).take (missing + 1)
        = { peer, answer := data } :: (participants answers).take missing := rfl
    rw [htake] at hnodup ⊢
    rw [List.map_cons] at hnodup
    have hfresh : identifierFromIndex peer.signerIndex ∉ s.commitments.entries.map Prod.fst :=
      fun hmem => (List.nodup_append.mp hnodup).2.2 _ hmem _ List.mem_cons_self rfl
    have hlength := length_add s peer data hfresh
    rw [Round1State.addAll_cons]
    unfold gather
    dsimp only
    by_cases hmissing : missing = 0
    · subst hmissing
      rw [if_pos (by omega), List.take_zero, Round1State.addAll_nil]
    · rw [if_neg (by omega)]
      refine gather_of_nodup threshold answers _ missing (by omega) (by omega) ?_
      have hentries : (s.add peer data).commitments.entries.map Prod.fst
          = s.commitments.entries.map Prod.fst ++ [identifierFromIndex peer.signerIndex] := by
        show (s.commitments.set _ _).entries.map Prod.fst = _
        rw [JsMap.entries_set_of_not_mem hfresh, List.map_append]
        rfl
      rw [hentries, List.append_assoc]
      exact hnodup

/-- A threshold that is met already ends the loop after the first answer. -/
theorem gather_of_le {threshold : Nat} {s : Round1State}
    (h : threshold ≤ s.commitments.entries.length) (answers : List (PeerConfig × Option Json)) :
    gather threshold answers s = s.addAll (participants (answers.take 1)) := by
  match answers with
  | [] => exact s.addAll_nil.symm
  | (peer, none) :: answers =>
    unfold gather
    dsimp only
    rw [if_pos h]
    exact s.addAll_nil.symm
  | (peer, some data) :: answers =>
    have hle : threshold ≤ (s.add peer data).commitments.entries.length :=
      h.trans (JsMap.length_le_set _ _ _)
    unfold gather
    dsimp only
    rw [if_pos hle]
    show _ = s.addAll [{ peer, answer := data }]
    rw [Round1State.addAll_cons, Round1State.addAll_nil]

def round2Answers (ask : Nat → Participant → PeerReply) :
    Nat → List Participant → List (Participant × Json)
  | _, [] => []
  | place, p :: peers =>
    match (ask place p).data with
    | some data => (p, data) :: round2Answers ask (place + 1) peers
    | none => round2Answers ask (place + 1) peers

theorem round2Peers_eq (ask : Nat → Participant → PeerReply) :
    ∀ (peers : List Participant) (place : Nat) (shares : Collected),
      round2Peers ask place peers shares =
        ((round2Answers ask place peers).map fun e =>
          (e.1.identifier, e.2.get? "signature_share")).foldl (fun m e => m.set e.1 e.2) shares
  | [], _, _ => rfl
  | p :: peers, place, shares => by
    unfold round2Peers round2Answers
    split
    next =>
      rw [round2Peers_eq ask peers (place + 1)]
      rfl
    next => exact round2Peers_eq ask peers (place + 1) shares

theorem mem_round2Answers {ask : Nat → Participant → PeerReply} {e : Participant × Json} :
    ∀ {peers : List Participant} {place : Nat}, e ∈ round2Answers ask place peers →
      ∃ i, peers[i]? = some e.1 ∧ (ask (place + i) e.1).data = some e.2
  | [], _, h => by simp [round2Answers] at h
  | p :: peers, place, h => by
    have hlater : e ∈ round2Answers ask (place + 1) peers →
        ∃ i, (p :: peers)[i]? = some e.1 ∧ (ask (place + i) e.1).data = some e.2 := by
      intro he
      obtain ⟨i, hi, hask⟩ := mem_round2Answers he
      refine ⟨i + 1, by simpa using hi, ?_⟩
      rw [show place + (i + 1) = place + 1 + i from by omega]
      exact hask
    unfold round2Answers at h
    split at h
    next data hdata =>
      rcases List.mem_cons.mp h with rfl | he
      · exact ⟨0, rfl, hdata⟩
      · exact hlater he
    next => exact hlater h

theorem round2Answers_of_all {ask : Nat → Participant → PeerReply} :
    ∀ {peers : List Participant} {place : Nat},
      (∀ (i : Nat) p, peers[i]? = some p → (ask (place + i) p).data.isSome) →
      (round2Answers ask place peers).map Prod.fst = peers
  | [], _, _ => rfl
  | p :: peers, place, h => by
    obtain ⟨data, hdata⟩ := Option.isSome_iff_exists.mp (h 0 p rfl)
    rw [Nat.add_zero] at hdata
    have hrest : (round2Answers ask (place + 1) peers).map Prod.fst = peers := by
      refine round2Answers_of_all fun i q hq => ?_
      have hq' := h (i + 1) q (by simpa using hq)
      rwa [show place + (i + 1) = place + 1 + i from by omega] at hq'
    unfold round2Answers
    rw [hdata]
    dsimp only
    rw [List.map_cons, hrest]

theorem round2Answers_sublist (ask : Nat → Participant → PeerReply) :
    ∀ (peers : List Participant) (place : Nat),
      ((round2Answers ask place peers).map Prod.fst).Sublist peers
  | [], _ => List.Sublist.slnil
  | p :: peers, place => by
    unfold round2Answers
    split
    next => exact (round2Answers_sublist ask peers (place + 1)).cons_cons p
    next => exact (round2Answers_sublist ask peers (place + 1)).cons p

end

end Anchr.Frost
