import Anchr.Frost.Properties.DerivedMessage
import Anchr.Proofs.Verifier

/-!
# Releasing a token of several proofs

`createFrostSignatureAdapter` asks the peers for one signature after another, one for each proof of
the token, and every peer verifies the same evidence each time. Under the TLSNotary schema the
verifier remembers every presentation it has seen and refuses it the second time.
-/

namespace Anchr.Frost

open Infra Payments Proofs Requests SignerRoutes

/-- What the coordinator asks a peer for. -/
def round1Bodies (K : FrostTools) (requirement : VerificationRequirement)
    (input : VerificationInput) (blossomKeys : Option BlossomKeyMap) (token : String) :
    Option (List Round1Body) :=
  (deriveFrostP2pkMessages K token).map fun messages =>
    messages.map fun message =>
      { message := some message, requirement := some requirement, input := some input
        blossomKeys, escrowToken := some token }

section

variable (K : FrostTools) (R : TlsnTools) (node : FrostNodeConfig)
  (requirement : VerificationRequirement) (input : VerificationInput)
  (crypto : VerifierBinaryResult)

/-- The peer gets the requests one after another, and accepts each of them. The sidecar gives the
presentation the same answer every time. -/
def Served : ReplayGuard → List (Round1Body × Inspection) → Prop
  | _, [] => True
  | g, (body, v) :: rest =>
    (∃ detail, (inspect R g v requirement input crypto).2 = some detail ∧
      ∀ t call, AcceptsRound1 K node t call body detail) ∧
    Served (inspect R g v requirement input crypto).1 rest

/-- At each of the verifications, in the state that the ones before have left. -/
def AlwaysForgotten : ReplayGuard → List Inspection → Prop
  | _, [] => True
  | g, v :: rest =>
    Forgotten R requirement input g v ∧
      AlwaysForgotten (inspect R g v requirement input crypto).1 rest

/-- A token of the group whose hash is in the requirement. -/
structure GroupLocked (token : String) : Prop where
  nonempty : token ≠ ""
  hash : requirement.escrowTokenHash = some (deriveFrostEscrowTokenHash K token)
  locked : tokenMatchesFrostP2pkLock K token node.groupPubkey = true

end

variable {K : FrostTools} {R : TlsnTools} {node : FrostNodeConfig}
  {requirement : VerificationRequirement} {input : VerificationInput}
  {crypto : VerifierBinaryResult} {token : String}

/-- A peer that has verified the evidence signs for every proof of the token. -/
theorem accepts_iff_passed (hsha : ∀ bytes, K.sha256 bytes ≠ [])
    (hlocked : GroupLocked K node requirement token) {blossomKeys : Option BlossomKeyMap}
    {bodies : List Round1Body} {body : Round1Body} {detail : VerificationDetail}
    (hbodies : round1Bodies K requirement input blossomKeys token = some bodies)
    (hbody : body ∈ bodies) (t : SessionTable) (call : Nat) :
    AcceptsRound1 K node t call body detail ↔ detail.passed = true := by
  obtain ⟨proofs, hdecoded, hproofs, hall⟩ := tokenMatchesFrostP2pkLock_iff.mp hlocked.locked
  rw [round1Bodies, deriveFrostP2pkMessages, hdecoded] at hbodies
  cases hbodies
  obtain ⟨message, hmessage, rfl⟩ := List.mem_map.mp hbody
  obtain ⟨proof, hproof, rfl⟩ := List.mem_map.mp hmessage
  have hspends : SpendsToken K (sha256Utf8Hex K proof.secret) requirement token node.groupPubkey
      proofs := ⟨hlocked.hash, hdecoded, hproofs, hall, proof, hproof, rfl⟩
  have hhash : requirement.escrowTokenHash ≠ some "" := by
    rw [hlocked.hash]
    exact fun heq => sha256Utf8Hex_ne hsha token (Option.some.inj heq)
  rw [acceptsRound1_iff]
  constructor
  · rintro ⟨-, -, -, -, -, -, -, hpassed, -⟩
    exact hpassed
  · intro hpassed
    exact ⟨_, _, _, sha256Utf8Hex_ne hsha _, rfl, rfl, rfl, hpassed,
      isAllowedSigningMessage_of_spends hlocked.nonempty hhash hspends⟩

/-- By induction over the requests: what the guard has seen is handed from one to the next. -/
theorem served_iff {g₀ : ReplayGuard} {v₀ : Inspection}
    (hfirst : Passes R g₀ v₀ requirement input crypto) :
    ∀ (bodies : List Round1Body) (visits : List Inspection) (g : ReplayGuard),
      (∀ body ∈ bodies, ∀ detail t call,
        AcceptsRound1 K node t call body detail ↔ detail.passed = true) →
      (∀ v ∈ visits, InWindow requirement input crypto v) → visits.length = bodies.length →
      (Served K R node requirement input crypto g (bodies.zip visits) ↔
        AlwaysForgotten R requirement input crypto g visits)
  | [], [], _, _, _, _ => Iff.rfl
  | [], _ :: _, _, _, _, hlength => by simp at hlength
  | _ :: _, [], _, _, _, hlength => by simp at hlength
  | body :: bodies, v :: visits, g, haccepts, hwindow, hlength => by
    have hrest := served_iff hfirst bodies visits (inspect R g v requirement input crypto).1
      (fun b hb => haccepts b (List.mem_cons_of_mem _ hb))
      (fun u hu => hwindow u (List.mem_cons_of_mem _ hu)) (by simpa using hlength)
    have hhead : (∃ detail, (inspect R g v requirement input crypto).2 = some detail ∧
        ∀ t call, AcceptsRound1 K node t call body detail) ↔ Forgotten R requirement input g v := by
      rw [← passes_iff_forgotten hfirst (hwindow v List.mem_cons_self)]
      constructor
      · rintro ⟨detail, hdetail, hserved⟩
        exact ⟨detail, hdetail, (haccepts body List.mem_cons_self detail {} 0).mp (hserved {} 0)⟩
      · rintro ⟨detail, hdetail, hpassed⟩
        exact ⟨detail, hdetail, fun t call =>
          (haccepts body List.mem_cons_self detail t call).mpr hpassed⟩
    rw [List.zip_cons_cons, Served, AlwaysForgotten, hhead, hrest]

/-- A peer process whose first verification of the evidence passes serves all proofs of the token,
and a `FrostSigner` whose round 1 passed verifies again in round 2, exactly when their replay guards
have forgotten the presentation at every later verification. -/
theorem multi_proof_release_iff (hsha : ∀ bytes, K.sha256 bytes ≠ [])
    (hlocked : GroupLocked K node requirement token) {blossomKeys : Option BlossomKeyMap}
    {bodies : List Round1Body}
    (hbodies : round1Bodies K requirement input blossomKeys token = some bodies)
    {g : ReplayGuard} {v : Inspection} {visits : List Inspection}
    (hlength : (v :: visits).length = bodies.length)
    (hfirst : Passes R g v requirement input crypto)
    (hwindow : ∀ u ∈ v :: visits, InWindow requirement input crypto u)
    {gs : ReplayGuard} {round1 round2 : Inspection}
    (hround1 : Passes R gs round1 requirement input crypto)
    (hround2 : InWindow requirement input crypto round2) :
    (Served K R node requirement input crypto g (bodies.zip (v :: visits)) ∧
      Passes R (inspect R gs round1 requirement input crypto).1 round2 requirement input crypto) ↔
    (AlwaysForgotten R requirement input crypto
        (inspect R g v requirement input crypto).1 visits ∧
      Forgotten R requirement input (inspect R gs round1 requirement input crypto).1 round2) := by
  have haccepts : ∀ body ∈ bodies, ∀ detail t call,
      AcceptsRound1 K node t call body detail ↔ detail.passed = true :=
    fun body hbody detail t call => accepts_iff_passed hsha hlocked hbodies hbody t call
  have hforgotten : Forgotten R requirement input g v :=
    (passes_iff_forgotten hfirst (hwindow v List.mem_cons_self)).mp hfirst
  rw [served_iff hfirst bodies (v :: visits) g haccepts hwindow hlength,
    passes_iff_forgotten hround1 hround2, AlwaysForgotten]
  constructor
  · rintro ⟨⟨-, hvisits⟩, hsigner⟩
    exact ⟨hvisits, hsigner⟩
  · rintro ⟨hvisits, hsigner⟩
    exact ⟨⟨hforgotten, hvisits⟩, hsigner⟩

/-! ## A token of two proofs -/

/-- A requirement with a TLSNotary schema and an escrow token. -/
def plainTlsnRequirement : VerificationRequirement where
  id := "q"
  schema := some tlsnV1
  schemaRequirement := some (.obj [("target_url", .str "https://api.test/"),
    ("max_attestation_age_seconds", .num (.ofInt 864000))])
  escrowTokenHash := some (deriveFrostEscrowTokenHash plainTools plainToken)

/-- A presentation. -/
def plainEvidence : VerificationInput where
  schemaEvidence := some (.obj [("presentation", .str "cA==")])

theorem tlsnTask_plain : tlsnTask plainTlsnRequirement plainEvidence = .ok (plainTlsn, "cA==") := by
  rfl

theorem groupLocked_plain : GroupLocked plainTools plainNode plainTlsnRequirement plainToken where
  nonempty := plainToken_ne
  hash := rfl
  locked := by
    have hhash : plainTlsnRequirement.escrowTokenHash =
      some (deriveFrostEscrowTokenHash plainTools plainToken) := rfl
    have hspends := spendsToken_plain hhash
      (List.mem_cons_self : (⟨.ofInt 1, plainSecret "1"⟩ : Proof) ∈ plainProofs)
    exact tokenMatchesFrostP2pkLock_iff.mpr
      ⟨plainProofs, hspends.decoded, hspends.nonempty, hspends.locked⟩

/-- The requests to a peer, one for each proof. -/
def plainBodies : List Round1Body :=
  plainProofs.map fun proof =>
    { message := some (sha256Utf8Hex plainTools proof.secret)
      requirement := some plainTlsnRequirement
      input := some plainEvidence
      escrowToken := some plainToken }

theorem round1Bodies_plain :
    round1Bodies plainTools plainTlsnRequirement plainEvidence none plainToken =
      some plainBodies := by
  have hhash : plainTlsnRequirement.escrowTokenHash =
    some (deriveFrostEscrowTokenHash plainTools plainToken) := rfl
  have hdecoded := (spendsToken_plain hhash
    (List.mem_cons_self : (⟨.ofInt 1, plainSecret "1"⟩ : Proof) ∈ plainProofs)).decoded
  rw [round1Bodies, deriveFrostP2pkMessages, hdecoded, Option.map_some, Option.map_some,
    List.map_map]
  rfl

/-- Eight days lie between the verifications, so the guard has forgotten the presentation. -/
theorem multi_proof_release_after_retention :
    Served plainTools plainTlsnTools plainNode plainTlsnRequirement plainEvidence plainCrypto {}
      (plainBodies.zip [inspectionAt 1001, inspectionAt 692201]) ∧
    Passes plainTlsnTools (inspect plainTlsnTools {} (inspectionAt 1001) plainTlsnRequirement
      plainEvidence plainCrypto).1 (inspectionAt 692201) plainTlsnRequirement plainEvidence
      plainCrypto := by
  have hpasses : Passes plainTlsnTools {} (inspectionAt 1001) plainTlsnRequirement plainEvidence
    plainCrypto := by decide +kernel
  have hlate : InWindow plainTlsnRequirement plainEvidence plainCrypto (inspectionAt 692201) :=
    (inWindow_iff tlsnTask_plain).mpr ⟨_, rfl, by decide +kernel⟩
  have hforgotten : Forgotten plainTlsnTools plainTlsnRequirement plainEvidence
      (inspect plainTlsnTools {} (inspectionAt 1001) plainTlsnRequirement plainEvidence
        plainCrypto).1 (inspectionAt 692201) :=
    (forgotten_iff tlsnTask_plain).mpr (by decide +kernel)
  refine (multi_proof_release_iff plainTools_sha256_ne_nil groupLocked_plain round1Bodies_plain rfl
    hpasses ?_ hpasses hlate).mpr ⟨⟨hforgotten, trivial⟩, hforgotten⟩
  intro u hu
  rcases List.mem_cons.mp hu with rfl | hu
  · exact (inWindow_iff tlsnTask_plain).mpr ⟨_, rfl, by decide +kernel⟩
  · rw [List.mem_singleton.mp hu]
    exact hlate

/-- A second later the presentation is refused: the peer signs for the first proof only, and the
`FrostSigner` does not get past the verification of round 2. -/
theorem second_verification_refused :
    GroupLocked plainTools plainNode plainTlsnRequirement plainToken ∧
    round1Bodies plainTools plainTlsnRequirement plainEvidence none plainToken = some plainBodies ∧
    Passes plainTlsnTools {} (inspectionAt 1001) plainTlsnRequirement plainEvidence plainCrypto ∧
    InWindow plainTlsnRequirement plainEvidence plainCrypto (inspectionAt 1002) ∧
    ¬Served plainTools plainTlsnTools plainNode plainTlsnRequirement plainEvidence plainCrypto {}
      (plainBodies.zip [inspectionAt 1001, inspectionAt 1002]) ∧
    ¬Passes plainTlsnTools (inspect plainTlsnTools {} (inspectionAt 1001) plainTlsnRequirement
      plainEvidence plainCrypto).1 (inspectionAt 1002) plainTlsnRequirement plainEvidence
      plainCrypto := by
  have hrefused : ¬Passes plainTlsnTools (inspect plainTlsnTools {} (inspectionAt 1001)
    plainTlsnRequirement plainEvidence plainCrypto).1 (inspectionAt 1002) plainTlsnRequirement
    plainEvidence plainCrypto := by decide +kernel
  refine ⟨groupLocked_plain, round1Bodies_plain, by decide +kernel,
    (inWindow_iff tlsnTask_plain).mpr ⟨_, rfl, by decide +kernel⟩, ?_, hrefused⟩
  rintro ⟨-, ⟨detail, hdetail, haccepts⟩, -⟩
  obtain ⟨-, -, -, -, -, -, -, hpassed, -⟩ := acceptsRound1_iff.mp (haccepts {} 0)
  exact hrefused ⟨detail, hdetail, hpassed⟩

end Anchr.Frost
