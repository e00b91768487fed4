import Anchr.Frost.Coordinator
import Anchr.Infra.JsonRoundtrip

/-!
# Key generation, round by round

A DKG session for `n` signers should go through its rounds in order, count each of the signers
`1..n` and nobody else, and end with the group key that all of them report. `submitDkgPackage` only
counts the packages of a round, and assigns the round it has counted. An index outside `1..n` counts
like any other; a package for a later round counts before the earlier ones are complete, and a
package for an earlier round takes the session back; the first key package decides the group key.
-/

namespace Anchr.Frost

open Infra

/-- The signers `1..n`. -/
def signerIndices (n : Nat) : List JsNumber := (List.range n).map fun i => .ofInt (i + 1)

def DkgSession.submitted (session : DkgSession) (round : Nat) (index : JsNumber) : Bool :=
  if round = 1 then session.round1Packages.has index
  else if round = 2 then session.round2Packages.has index
  else if round = 3 then session.keyPackages.has index
  else false

/-- Every signer has submitted a package of the round, and nobody else has. -/
def DkgSession.Complete (session : DkgSession) (round : Nat) : Prop :=
  ∀ index, session.submitted round index = true ↔ index ∈ signerIndices session.totalSigners

/-- The group key that a key package reports. -/
def reportedKey (T : NumberText) (packageJson : String) : Option Json :=
  (Json.parse T packageJson).bind fun parsed => parsed.get? "group_pubkey"

/-- The submission keeps to the protocol: it comes from one of the signers, for the round that is
open or the one just completed, and a key package reports the group key of those before it. -/
structure Disciplined (T : NumberText) (session : DkgSession) (sub : DkgSubmission) : Prop where
  signer : sub.signerIndex ∈ signerIndices session.totalSigners
  notBack : session.currentRound ≤ sub.round
  notAhead : sub.round ≤ session.currentRound + 1
  key : sub.round = 3 → ∃ key, reportedKey T sub.packageJson = some key ∧ key.truthy = true ∧
    ∀ kept ∈ session.groupPubkey, kept = key

structure DkgOrder (T : NumberText) (session : DkgSession) : Prop where
  signers : ∀ round index, session.submitted round index = true →
    index ∈ signerIndices session.totalSigners
  complete : ∀ round, 1 ≤ round → round ≤ session.currentRound → session.Complete round
  key : ∀ index text, session.keyPackages.get? index = some text →
    ∃ key, reportedKey T text = some key ∧ session.groupPubkey = some key

/-- What a call may do: it never takes the session back, a round it reports complete has a package
of every signer and of nobody else while the rounds before it were complete already, and the group
key it returns is the one all key packages report. -/
structure DkgStep (T : NumberText) (session session' : DkgSession) (evs : List DkgEvent) :
    Prop where
  round : session.currentRound ≤ session'.currentRound
  complete : ∀ sub r, .answered sub (some r) ∈ evs → r.complete = true → r.round = sub.round ∧
    session'.Complete r.round ∧ ∀ earlier, 1 ≤ earlier → earlier < r.round →
      session.Complete earlier
  key : ∀ sub r, .answered sub (some r) ∈ evs → r.complete = true → r.round = 3 →
    ∃ key, r.groupPubkey = some key ∧ ∀ index ∈ signerIndices session.totalSigners, ∃ text,
      session'.keyPackages.get? index = some text ∧ reportedKey T text = some key

variable {T : NumberText} {session stored session' : DkgSession} {sub : DkgSubmission} {count : Nat}

/-! ## What a call stores -/

/-- The session after the package is stored and before the round is counted. -/
structure StoredAs (T : NumberText) (session stored : DkgSession) (sub : DkgSubmission)
    (count : Nat) : Prop where
  total : stored.totalSigners = session.totalSigners
  currentRound : stored.currentRound = session.currentRound
  submitted : ∀ round index, stored.submitted round index = true ↔
    (round = sub.round ∧ index = sub.signerIndex) ∨ session.submitted round index = true
  filled : (∀ index, stored.submitted sub.round index = true →
      index ∈ signerIndices session.totalSigners) →
    session.totalSigners ≤ count → stored.Complete sub.round
  keyPackages : ∀ index text, stored.keyPackages.get? index = some text →
    session.keyPackages.get? index = some text ∨ (sub.round = 3 ∧ text = sub.packageJson)
  groupPubkey : stored.groupPubkey = if sub.round = 3
    then firstTruthy session.groupPubkey (reportedKey T sub.packageJson) else session.groupPubkey

theorem length_signerIndices (n : Nat) : (signerIndices n).length = n := by simp [signerIndices]

variable {round n : Nat} {result : Option DkgRoundResult}

/-- A round in which only signers have submitted is complete when it counts enough. -/
theorem complete_of_count {ν : Type} {packages : JsMap JsNumber ν}
    (hround : ∀ index, stored.submitted round index = packages.has index)
    (honly : ∀ index, stored.submitted round index = true →
      index ∈ signerIndices stored.totalSigners)
    (hcount : stored.totalSigners ≤ packages.entries.length) : stored.Complete round := by
  intro index
  refine ⟨honly index, fun hindex => ?_⟩
  rw [hround]
  refine JsMap.has_of_length (fun k hk => honly k (by rw [hround]; exact hk)) ?_ hindex
  rw [length_signerIndices]
  exact hcount

theorem readKeyPackage_eq (T : NumberText) (session : DkgSession) (packageJson : String) :
    (session.readKeyPackage T packageJson).groupPubkey
        = firstTruthy session.groupPubkey (reportedKey T packageJson) ∧
      (session.readKeyPackage T packageJson).keyPackages = session.keyPackages ∧
      (session.readKeyPackage T packageJson).totalSigners = session.totalSigners ∧
      (session.readKeyPackage T packageJson).currentRound = session.currentRound ∧
      (session.readKeyPackage T packageJson).submitted = session.submitted := by
  unfold DkgSession.readKeyPackage reportedKey
  split
  next h => simp [h, firstTruthy]
  next h => simp [h, firstTruthy, Json.get?]
  next parsed _ h => simp [h]; rfl

theorem storedAs_round1 (hround : sub.round = 1) :
    StoredAs T session (session.storeRound1 sub) sub
      (session.storeRound1 sub).round1Packages.entries.length where
  total := rfl
  currentRound := rfl
  submitted := by
    intro round index
    by_cases h1 : round = 1
    · subst h1
      simp [DkgSession.submitted, DkgSession.storeRound1, hround]
    · simp [DkgSession.submitted, DkgSession.storeRound1, hround, h1]
  filled := by
    intro honly hcount
    rw [hround] at honly ⊢
    exact complete_of_count (fun _ => rfl) honly hcount
  keyPackages := fun _ _ h => .inl h
  groupPubkey := by rw [if_neg (by omega)]; rfl

theorem storedAs_round2 (hround : sub.round = 2) (packages : Json) :
    StoredAs T session (session.storeRound2 sub packages) sub
      (session.storeRound2 sub packages).round2Packages.entries.length where
  total := rfl
  currentRound := rfl
  submitted := by
    intro round index
    by_cases h2 : round = 2
    · subst h2
      simp [DkgSession.submitted, DkgSession.storeRound2, hround]
    · simp [DkgSession.submitted, DkgSession.storeRound2, hround, h2]
  filled := by
    intro honly hcount
    rw [hround] at honly ⊢
    exact complete_of_count (fun _ => rfl) honly hcount
  keyPackages := fun _ _ h => .inl h
  groupPubkey := by rw [if_neg (by omega)]; rfl

theorem storedAs_round3 (hround : sub.round = 3) :
    StoredAs T session (session.storeRound3 T sub) sub
      (session.storeRound3 T sub).keyPackages.entries.length := by
  obtain ⟨hkey, hpackages, htotal, hcurrent, hsubmitted⟩ := readKeyPackage_eq T
    { session with keyPackages := session.keyPackages.set sub.signerIndex sub.packageJson }
    sub.packageJson
  refine ⟨htotal, hcurrent, ?_, ?_, ?_, ?_⟩
  · intro round index
    show (DkgSession.readKeyPackage T _ _).submitted round index = true ↔ _
    rw [hsubmitted]
    by_cases h3 : round = 3
    · subst h3
      simp [DkgSession.submitted, hround]
    · simp [DkgSession.submitted, hround, h3]
  · intro honly hcount
    rw [hround] at honly ⊢
    refine complete_of_count (fun _ => rfl) ?_ ?_
    · intro index hindex
      rw [show (session.storeRound3 T sub).totalSigners = session.totalSigners from htotal]
      exact honly index hindex
    · rw [show (session.storeRound3 T sub).totalSigners = session.totalSigners from htotal]
      exact hcount
  · intro index text h
    rw [show (session.storeRound3 T sub).keyPackages = _ from hpackages] at h
    rcases JsMap.get?_of_set h with ⟨-, rfl⟩ | hold
    · exact .inr ⟨hround, rfl⟩
    · exact .inl hold
  · rw [if_pos hround]
    exact hkey

theorem submit_cases (h : session.submit T sub = some (session', result)) :
    (session' = session ∧ result = none) ∨
    ∃ stored count reported, StoredAs T session stored sub count ∧
      reported.round = sub.round ∧ (sub.round = 3 → reported.groupPubkey = stored.groupPubkey) ∧
      stored.closeRound sub.round count reported = (session', result) := by
  unfold DkgSession.submit at h
  split at h
  next h1 =>
    refine .inr ⟨_, _, { round := 1, complete := true }, storedAs_round1 h1, h1.symm, by omega, ?_⟩
    rw [h1]
    exact Option.some.inj h
  split at h
  next h2 =>
    split at h
    next => simp at h
    next => simp at h
    next packages _ _ =>
      refine .inr ⟨_, _, { round := 2, complete := true }, storedAs_round2 h2 packages, h2.symm,
        by omega, ?_⟩
      rw [h2]
      exact Option.some.inj h
  split at h
  next h3 =>
    let stored := session.storeRound3 T sub
    refine .inr ⟨stored, _, ⟨3, true, stored.groupPubkey, stored.pubkeyPackage⟩,
      storedAs_round3 h3, h3.symm, fun _ => rfl, ?_⟩
    rw [h3]
    exact Option.some.inj h
  cases h
  exact .inl ⟨rfl, rfl⟩

/-! ## One disciplined call -/

theorem firstTruthy_same {kept : Option Json} {key : Json} (htruthy : key.truthy = true)
    (hkept : ∀ k ∈ kept, k = key) : firstTruthy kept (some key) = some key := by
  unfold firstTruthy
  cases kept with
  | none => simp [htruthy]
  | some k =>
    rw [hkept k rfl]
    simp [htruthy]

theorem DkgOrder.store (h : DkgOrder T session) (hsub : Disciplined T session sub)
    (hstored : StoredAs T session stored sub count) : DkgOrder T stored where
  signers := by
    intro round index hindex
    rw [hstored.total]
    rcases (hstored.submitted round index).mp hindex with ⟨-, rfl⟩ | hold
    · exact hsub.signer
    · exact h.signers round index hold
  complete := by
    intro round hpos hle index
    rw [hstored.currentRound] at hle
    rw [hstored.submitted, hstored.total, h.complete round hpos hle index]
    constructor
    · rintro (⟨-, rfl⟩ | hold)
      · exact hsub.signer
      · exact hold
    · exact .inr
  key := by
    intro index text htext
    rw [hstored.groupPubkey]
    by_cases h3 : sub.round = 3
    · obtain ⟨key, hreported, htruthy, hkept⟩ := hsub.key h3
      rw [if_pos h3, hreported, firstTruthy_same htruthy hkept]
      rcases hstored.keyPackages index text htext with hold | ⟨-, rfl⟩
      · -- the packages before report the same key
        obtain ⟨key', hreported', hsame⟩ := h.key index text hold
        rw [← hkept key' hsame]
        exact ⟨key', hreported', rfl⟩
      · exact ⟨key, hreported, rfl⟩
    · rw [if_neg h3]
      rcases hstored.keyPackages index text htext with hold | ⟨hround, -⟩
      · exact h.key index text hold
      · exact absurd hround h3

theorem DkgOrder.closed (h : DkgOrder T stored) (hsub : sub.round ≤ stored.currentRound + 1)
    (hcomplete : stored.Complete sub.round) :
    DkgOrder T { stored with currentRound := sub.round } where
  signers := h.signers
  complete := by
    intro round hpos hle
    rcases Nat.lt_or_ge round sub.round with hlt | hge
    · exact h.complete round hpos (by omega)
    · have heq : round = sub.round := Nat.le_antisymm hle hge
      rw [heq]
      exact hcomplete
  key := h.key

theorem DkgOrder.groupKey (h : DkgOrder T stored) {signer : JsNumber}
    (hsigner : signer ∈ signerIndices n) (hcomplete : stored.Complete 3)
    (htotal : stored.totalSigners = n) : ∃ key, stored.groupPubkey = some key ∧
      ∀ index ∈ signerIndices n, ∃ text, stored.keyPackages.get? index = some text ∧
        reportedKey T text = some key := by
  have hpackage : ∀ index ∈ signerIndices n, ∃ text, stored.keyPackages.get? index = some text := by
    intro index hindex
    rw [← htotal] at hindex
    exact Option.isSome_iff_exists.mp ((hcomplete index).mpr hindex)
  obtain ⟨text, htext⟩ := hpackage signer hsigner
  obtain ⟨key, -, hkey⟩ := h.key signer text htext
  refine ⟨key, hkey, fun index hindex => ?_⟩
  obtain ⟨text, htext⟩ := hpackage index hindex
  obtain ⟨key', hreported, hkey'⟩ := h.key index text htext
  rw [hkey] at hkey'
  exact ⟨text, htext, by rw [hreported, hkey']⟩

structure DkgKept (T : NumberText) (n : Nat) (session : DkgSession) : Prop extends
    DkgOrder T session where
  total : session.totalSigners = n

theorem dkgStep_of_submit (h : DkgKept T n session) (hsub : Disciplined T session sub)
    (hsubmit : session.submit T sub = some (session', result)) :
    DkgKept T n session' ∧ DkgStep T session session' [.answered sub result] := by
  rcases submit_cases hsubmit with ⟨rfl, rfl⟩ | ⟨stored, count, reported, hstored, hround, hkey, hclose⟩
  · exact ⟨h, le_refl _, by simp, by simp⟩
  · have horder := h.store hsub hstored
    have htotal : stored.totalSigners = n := by rw [hstored.total, h.total]
    unfold DkgSession.closeRound at hclose
    split at hclose
    next hcount =>
      cases hclose
      have hcomplete : stored.Complete sub.round := by
        refine hstored.filled (fun index hindex => ?_) (by rw [← hstored.total]; exact hcount)
        rw [← hstored.total]
        exact horder.signers _ index hindex
      have hahead := hsub.notAhead
      refine ⟨⟨horder.closed (by rw [hstored.currentRound]; exact hahead) hcomplete, htotal⟩,
        hsub.notBack, ?_, ?_⟩
      · intro sub' r hr _
        obtain ⟨rfl, rfl⟩ : sub' = sub ∧ r = reported := by simpa using hr
        rw [hround]
        exact ⟨rfl, hcomplete, fun earlier hpos hlt => h.complete earlier hpos (by omega)⟩
      · intro sub' r hr _ h3
        obtain ⟨rfl, rfl⟩ : sub' = sub ∧ r = reported := by simpa using hr
        rw [hround] at h3
        rw [h3] at hcomplete
        rw [hkey h3]
        exact horder.groupKey hsub.signer hcomplete hstored.total
    cases hclose
    refine ⟨⟨horder, htotal⟩, le_of_eq hstored.currentRound.symm, ?_, ?_⟩
    · intro sub' r hr hcomplete
      obtain ⟨rfl, rfl⟩ : sub' = sub ∧ r = _ := by simpa using hr
      simp at hcomplete
    · intro sub' r hr hcomplete
      obtain ⟨rfl, rfl⟩ : sub' = sub ∧ r = _ := by simpa using hr
      simp at hcomplete

/-- A call that throws has stored nothing. -/
theorem dkgStep_of_step (h : DkgKept T n session) (hsub : Disciplined T session sub)
    {evs : List DkgEvent} (hstep : (dkgMachine T).step session sub = some (session', evs)) :
    DkgKept T n session' ∧ DkgStep T session session' evs := by
  unfold dkgMachine at hstep
  dsimp only at hstep
  split at hstep
  next =>
    cases hstep
    exact ⟨h, le_refl _, by simp, by simp⟩
  next session₁ result hsubmit =>
    cases hstep
    exact dkgStep_of_submit h hsub hsubmit

theorem dkgKept_init (sessionId : String) (threshold n : Nat) (now : Int) :
    DkgKept T n (.init sessionId threshold n now) where
  signers := by
    intro round index h
    simp [DkgSession.submitted, DkgSession.init, JsMap.has] at h
  complete := fun round hpos hle => absurd hle (by simp [DkgSession.init]; omega)
  key := by simp [DkgSession.init]
  total := rfl

/-! ## Disciplined runs -/

/-- Every call of a disciplined run on a session for `n` signers. -/
theorem dkg_discipline {sessionId : String} {threshold n : Nat} {now : Int} {tr : List DkgEvent}
    (hrun : Run (dkgMachine T) (Disciplined T) (.init sessionId threshold n now) tr session)
    (hsub : Disciplined T session sub) {evs : List DkgEvent}
    (hstep : (dkgMachine T).step session sub = some (session', evs)) :
    session.totalSigners = n ∧ DkgStep T session session' evs := by
  have hkept : DkgKept T n session := by
    refine hrun.invariant (I := fun _ s => DkgKept T n s) (dkgKept_init _ _ _ _) ?_
    intro tr s a s' evs hs hguard hstep
    exact (dkgStep_of_step hs hguard hstep).1
  exact ⟨hkept.total, (dkgStep_of_step hkept hsub hstep).2⟩

/-! ## Two signers -/

/-- A session for two. -/
def twoSigners : DkgSession := .init "dkg" 2 2 0

/-- A package of this signer. -/
def packageOf (round : Nat) (signer : Int) (packageJson : String) : DkgSubmission :=
  { round, signerIndex := .ofInt signer, packageJson }

/-- A key package that reports this key. -/
def keyPackage (key : String) : String :=
  (Json.obj [("group_pubkey", .str key)]).stringify .safeIntegers

theorem reportedKey_keyPackage (key : String) :
    reportedKey .safeIntegers (keyPackage key) = some (.str key) := by
  have hdoubles : (Json.obj [("group_pubkey", .str key)]).Doubles .safeIntegers := ⟨trivial, trivial⟩
  unfold reportedKey keyPackage
  rw [Json.parse_stringify hdoubles]
  rfl

def noTargets : String := (Json.obj []).stringify .safeIntegers

theorem parse_noTargets : Json.parse .safeIntegers noTargets = some (.obj []) :=
  Json.parse_stringify trivial

theorem step_round1 (h : sub.round = 1) : (dkgMachine T).step session sub
    = some ((session.submitRound1 sub).1, [.answered sub (session.submitRound1 sub).2]) := by
  have hsubmit : session.submit T sub = some (session.submitRound1 sub) := by
    unfold DkgSession.submit
    rw [if_pos h]
  unfold dkgMachine
  simp only [hsubmit]

theorem step_round2 (h : sub.round = 2) {members : List (String × Json)}
    (hparse : Json.parse T sub.packageJson = some (.obj members)) :
    (dkgMachine T).step session sub = some ((session.submitRound2 sub (.obj members)).1,
      [.answered sub (session.submitRound2 sub (.obj members)).2]) := by
  have hsubmit : session.submit T sub = some (session.submitRound2 sub (.obj members)) := by
    unfold DkgSession.submit
    rw [if_neg (by omega), if_pos h, hparse]
  unfold dkgMachine
  simp only [hsubmit]

theorem step_round3 (h : sub.round = 3) : (dkgMachine T).step session sub
    = some ((session.submitRound3 T sub).1, [.answered sub (session.submitRound3 T sub).2]) := by
  have hsubmit : session.submit T sub = some (session.submitRound3 T sub) := by
    unfold DkgSession.submit
    rw [if_neg (by omega), if_neg (by omega), if_pos h]
  unfold dkgMachine
  simp only [hsubmit]

/-- Both signers have submitted in round 1, then in round 2, then the first of them its key. -/
def afterRound1 : DkgSession :=
  ((twoSigners.submitRound1 (packageOf 1 1 "p")).1.submitRound1 (packageOf 1 2 "p")).1

def afterRound2 : DkgSession :=
  ((afterRound1.submitRound2 (packageOf 2 1 noTargets) (.obj [])).1.submitRound2
    (packageOf 2 2 noTargets) (.obj [])).1

def afterKey : DkgSession :=
  (afterRound2.submitRound3 .safeIntegers (packageOf 3 1 (keyPackage "a"))).1

theorem disciplined_early {signer : Int} {packageJson : String}
    (hsigner : .ofInt signer ∈ signerIndices session.totalSigners)
    (hback : session.currentRound ≤ round) (hahead : round ≤ session.currentRound + 1)
    (hround : round ≠ 3) : Disciplined T session (packageOf round signer packageJson) :=
  ⟨hsigner, hback, hahead, fun h => absurd h hround⟩

theorem run_afterRound1 : ∃ tr, Run (dkgMachine .safeIntegers) (Disciplined .safeIntegers)
    twoSigners tr afterRound1 := by
  have hstart : Run (dkgMachine .safeIntegers) (Disciplined .safeIntegers) twoSigners [] twoSigners :=
    .start
  have h1 := hstart.next (a := packageOf 1 1 "p")
    (disciplined_early (by decide) (by decide) (by decide) (by decide))
    (step_round1 rfl)
  exact ⟨_, h1.next (a := packageOf 1 2 "p")
    (disciplined_early (by decide) (by decide) (by decide) (by decide))
    (step_round1 rfl)⟩

theorem run_afterRound2 : ∃ tr, Run (dkgMachine .safeIntegers) (Disciplined .safeIntegers)
    twoSigners tr afterRound2 := by
  obtain ⟨_, hrun⟩ := run_afterRound1
  have h1 := hrun.next (a := packageOf 2 1 noTargets)
    (disciplined_early (by decide) (by decide) (by decide) (by decide))
    (step_round2 rfl parse_noTargets)
  exact ⟨_, h1.next (a := packageOf 2 2 noTargets)
    (disciplined_early (by decide) (by decide) (by decide) (by decide))
    (step_round2 rfl parse_noTargets)⟩

theorem groupPubkey_submitRound3 : (session.submitRound3 T sub).1.groupPubkey
    = firstTruthy session.groupPubkey (reportedKey T sub.packageJson) := by
  have hkey := (readKeyPackage_eq T
    { session with keyPackages := session.keyPackages.set sub.signerIndex sub.packageJson }
    sub.packageJson).1
  unfold DkgSession.submitRound3 DkgSession.closeRound
  dsimp only
  split
  next => exact hkey
  next => exact hkey

theorem afterKey_groupPubkey : afterKey.groupPubkey = some (.str "a") := by
  unfold afterKey
  rw [groupPubkey_submitRound3]
  show firstTruthy none (reportedKey .safeIntegers (keyPackage "a")) = _
  rw [reportedKey_keyPackage]
  rfl

/-- The second key package reports the same key, and completes round 3. -/
theorem dkg_discipline_two : ∃ tr session' evs,
    Run (dkgMachine .safeIntegers) (Disciplined .safeIntegers) twoSigners tr afterKey ∧
    (dkgMachine .safeIntegers).step afterKey (packageOf 3 2 (keyPackage "a"))
      = some (session', evs) ∧
    afterKey.currentRound = 2 ∧ session'.currentRound = 3 ∧
    DkgStep .safeIntegers afterKey session' evs := by
  obtain ⟨_, hrun⟩ := run_afterRound2
  have hkey := hrun.next (a := packageOf 3 1 (keyPackage "a")) ⟨by decide, by decide,
    by decide, fun _ => ⟨_, reportedKey_keyPackage "a", rfl, by intro k hk; cases hk⟩⟩
    (step_round3 rfl)
  have hlast : Disciplined .safeIntegers afterKey (packageOf 3 2 (keyPackage "a")) := by
    refine ⟨by decide +kernel, by decide +kernel, by decide +kernel, fun _ => ⟨_,
      reportedKey_keyPackage "a", rfl, fun k hk => ?_⟩⟩
    rw [afterKey_groupPubkey] at hk
    exact (Option.some.inj hk).symm
  exact ⟨_, _, _, hkey, step_round3 rfl, by decide +kernel, by decide +kernel,
    (dkg_discipline hkey hlast (step_round3 rfl)).2⟩

/-- The rounds reported complete, each with the group key returned. -/
def completions (evs : List DkgEvent) : List (Nat × Option String) :=
  evs.filterMap fun
    | .answered _ (some r) =>
      if r.complete then some (r.round, r.groupPubkey.bind Json.asString?) else none
    | _ => none

/-- Key packages with two different keys complete round 3 before any other round; two indices that
are no signers' then complete round 1, which takes the session back. -/
theorem dkg_undisciplined :
    ((dkgMachine .safeIntegers).exec twoSigners
        [packageOf 3 1 (keyPackage "a"), packageOf 3 2 (keyPackage "b")]).map
        (fun r => (r.1.currentRound, completions r.2)) = some (3, [(3, some "a")]) ∧
    reportedKey .safeIntegers (keyPackage "b") = some (.str "b") ∧
    ((dkgMachine .safeIntegers).exec twoSigners
        [packageOf 3 1 (keyPackage "a"), packageOf 3 2 (keyPackage "b"), packageOf 1 7 "p",
          packageOf 1 8 "p"]).map
        (fun r => (r.1.currentRound, completions r.2)) = some (1, [(3, some "a"), (1, none)]) ∧
    .ofInt 7 ∉ signerIndices 2 ∧ .ofInt 8 ∉ signerIndices 2 := by
  refine ⟨by decide +kernel, reportedKey_keyPackage "b", by decide +kernel, by decide +kernel,
    by decide⟩

end Anchr.Frost
