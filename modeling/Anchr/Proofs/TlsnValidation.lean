import Anchr.Infra.Text
import Anchr.Proofs.ReplayGuard
import Anchr.Proofs.TlsnTypes
import Mathlib.Tactic.Linarith

/-!
# Validating a TLSNotary presentation

`validateTlsn` of `proofs/tlsn-validation.ts` and what it calls. The function is suspended once, at
`await runVerifierBinary(..)`, so it has two turns; the clock is read once in each. The replay guard
is shared by all calls of the process.
-/

namespace Anchr.Proofs

open Infra

/-- What the libraries give, and the path of the verifier. -/
structure TlsnTools where
  text : NumberText
  sha256 : List UInt8 → List UInt8
  /-- `new URL(url).hostname`, `none` when the constructor throws. -/
  hostname : String → Option String
  /-- `new RegExp(pattern).exec(body)`: `none` when the constructor throws, then the text of the
  match if there is one. -/
  regExp : String → String → Option (Option String)
  /-- The path `resolveTlsnVerifier` finds. -/
  verifierPath : Option String

/-! ## Patterns that may backtrack -/

/-- The rest of a character class after its bracket, `(?:[^\]\\]|\\.)*\]`. A backslash takes the
next character with it unless that ends a line. -/
def skipClass : List Char → Option (List Char)
  | [] => none
  | ']' :: rest => some rest
  | ['\\'] => none
  | '\\' :: c :: rest =>
    if c = '\n' ∨ c = '\r' ∨ c = '\u2028' ∨ c = '\u2029' then none else skipClass rest
  | _ :: rest => skipClass rest

/-- `pattern.replace(/\[(?:[^\]\\]|\\.)*\]/g, "X")`. One unit of fuel for each character is
enough. -/
def stripClasses (fuel : Nat) : List Char → List Char
  | [] => []
  | c :: rest =>
    match fuel with
    | 0 => c :: rest
    | fuel + 1 =>
      if c = '[' then
        match skipClass rest with
        | some after => 'X' :: stripClasses fuel after
        | none => c :: stripClasses fuel rest
      else c :: stripClasses fuel rest

/-- `[+*{]`. -/
def startsQuantifier : List Char → Bool
  | c :: _ => c == '+' || c == '*' || c == '{'
  | [] => false

/-- `/\([^)]*\|[^)]*\)[+*{]/` at the start of the text. -/
def alternationGroup : List Char → Bool
  | '(' :: rest =>
    (rest.takeWhile (· ≠ ')')).contains '|' && startsQuantifier ((rest.dropWhile (· ≠ ')')).drop 1)
  | _ => false

/-- `/[+*}]\)+[+*{]/` at the start of the text. -/
def quantifiedGroup : List Char → Bool
  | c :: ')' :: rest =>
    (c == '+' || c == '*' || c == '}') && startsQuantifier (rest.dropWhile (· = ')'))
  | _ => false

/-- The three regular expressions of the source, as functions on text. -/
def isSuspiciousRegex (pattern : String) : Bool :=
  let stripped := stripClasses pattern.toList.length pattern.toList
  stripped.tails.any alternationGroup || stripped.tails.any quantifiedGroup

/-! ## Conditions -/

structure ConditionResult where
  passed : Bool
  actualValue : Option String := none

def blockedProps : List String := ["__proto__", "constructor", "prototype"]

/-- The loop of `resolveDotPath`; `none` is `undefined`. -/
def resolveParts (T : NumberText) : List String → Json → Option Json
  | [], current => some current
  | part :: parts, current =>
    if !current.isObject then none
    else if blockedProps.contains part then none
    else (current.ownProperty T part).bind (resolveParts T parts)

def resolveDotPath (T : NumberText) (value : Json) (path : String) : Option Json :=
  resolveParts T ((path.toList.splitOn '.').map String.ofList) value

variable (R : TlsnTools)

def evaluateRegex (pattern body : String) : ConditionResult :=
  if 500 < utf16Length pattern then
    { passed := false, actualValue := some "regex pattern too long (max 500 chars)" }
  else if isSuspiciousRegex pattern then
    { passed := false, actualValue := some "regex rejected: potential ReDoS pattern detected" }
  else
    match R.regExp pattern body with
    | some result => { passed := result.isSome, actualValue := result }
    | none => { passed := false, actualValue := some "invalid regex pattern" }

def evaluateJsonpath (expression : String) (expected : Option String) (body : String) :
    ConditionResult :=
  match Json.parse R.text body with
  | none => { passed := false, actualValue := some "invalid JSON" }
  | some value =>
    match resolveDotPath R.text value expression with
    | none => { passed := false }
    | some found =>
      match stringOf R.text found with
      | none => { passed := false, actualValue := some "invalid JSON" }
      | some actual =>
        match expected with
        | some expected => { passed := actual == expected, actualValue := some actual }
        | none => { passed := true, actualValue := some actual }

def evaluateCondition (condition : TlsnCondition) (body : String) : ConditionResult :=
  match condition.type with
  | .contains =>
    if condition.expression.toList <:+: body.toList then
      { passed := true, actualValue := some condition.expression }
    else { passed := false }
  | .regex => evaluateRegex R condition.expression body
  | .jsonpath => evaluateJsonpath R condition.expression condition.expected body

/-! ## Validation -/

/-- What the sidecar has found. -/
structure VerifierBinaryResult where
  signatureValid : Bool
  verifiedServerName : Option String := none
  verifiedBody : Option String := none
  verifiedHeaders : Option String := none
  verifiedTime : Option JsNumber := none
  error : Option String := none

structure TlsnValidationResult where
  available : Bool
  signatureValid : Bool
  serverIdentityValid : Bool := false
  conditionResults : List (TlsnCondition × ConditionResult) := []
  attestationFresh : Bool := false
  verifiedData : Option TlsnVerifiedData := none
  checks : List String := []
  failures : List String := []

structure Findings where
  checks : List String := []
  failures : List String := []

def presentationHash (presentation : String) : String := bytesToHex (R.sha256 (utf8 presentation))

/-- `requirement.domain_hint ?? extractHostname(requirement.target_url)`, unless it is empty. -/
def expectedHostname (requirement : TlsnRequirement) : Option String :=
  ((requirement.domainHint <|> R.hostname requirement.targetUrl)).filter (· ≠ "")

def checkServer (requirement : TlsnRequirement) (serverName : Option String) : Findings :=
  match expectedHostname R requirement with
  | none => {}
  | some expected =>
    if serverName = some expected then
      { checks := ["TLSNotary: server name matches target (" ++ expected ++ ")"] }
    else
      { failures := ["TLSNotary: server name \"" ++ serverName.getD "unknown" ++
          "\" does not match target \"" ++ expected ++ "\""] }

def defaultMaxAgeSeconds : JsNumber := .ofInt 300

def maxAgeSeconds (requirement : TlsnRequirement) : JsNumber :=
  requirement.maxAttestationAgeSeconds.getD defaultMaxAgeSeconds

/-- `Date.now() - verifiedTime * 1000`. -/
def ageMs (now time : JsNumber) : JsNumber := now.sub (time.scale 1000)

/-- `ageMs >= 0 && ageMs < maxAgeSeconds * 1000`. -/
def isFresh (requirement : TlsnRequirement) (now time : JsNumber) : Bool :=
  (JsNumber.ofInt 0).le (ageMs now time) &&
    (ageMs now time).lt ((maxAgeSeconds requirement).scale 1000)

/-- `Math.round(ageMs / 1000)`. -/
def roundedAge (age : JsNumber) : JsNumber := ((age.scale (1 / 1000)).add (.fin (1 / 2))).floor

def checkFreshness (requirement : TlsnRequirement) (now : JsNumber) (time : Option JsNumber) :
    Findings :=
  match time with
  | none =>
    { failures := ["TLSNotary: no timestamp in proof — cannot verify attestation freshness"] }
  | some time =>
    let age := R.text.toString (roundedAge (ageMs now time))
    let max := R.text.toString (maxAgeSeconds requirement)
    if isFresh requirement now time then
      { checks := ["TLSNotary: attestation fresh (" ++ age ++ "s old, max " ++ max ++ "s)"] }
    else { failures := ["TLSNotary: attestation too old (" ++ age ++ "s, max " ++ max ++ "s)"] }

def conditionLabel (condition : TlsnCondition) : String :=
  condition.description.getD (condition.type.text ++ ":" ++ condition.expression)

def checkCondition (body : String) (condition : TlsnCondition) : Findings :=
  if (evaluateCondition R condition body).passed then
    { checks := ["TLSNotary condition passed: " ++ conditionLabel condition] }
  else { failures := ["TLSNotary condition failed: " ++ conditionLabel condition] }

/-- What the first turn leaves: a result, or the call suspended at the sidecar. -/
inductive TlsnStart where
  | done (result : TlsnValidationResult)
  | running

/-- `validateTlsn`, up to the sidecar. -/
def beginValidateTlsn (g : ReplayGuard) (now : JsNumber) (presentation : String) :
    ReplayGuard × TlsnStart :=
  (g.evict now,
    if g.remembers (presentationHash R presentation) now then
      .done
        { available := true, signatureValid := false
          failures := ["TLSNotary: presentation already used — proof replay rejected"] }
    else
      match R.verifierPath with
      | none | some "" =>
        .done
          { available := false, signatureValid := false
            failures :=
              ["TLSNotary: tlsn-verifier binary not available — cannot verify presentation"] }
      | some _ => .running)

/-- `validateTlsn`, once the sidecar has answered. Every presentation with a valid signature is
marked as used, whatever the other checks say. The check of its age and the guard read the clock one
after the other; here these readings are one. -/
def finishValidateTlsn (g : ReplayGuard) (now : JsNumber) (presentation : String)
    (requirement : TlsnRequirement) (crypto : VerifierBinaryResult) :
    ReplayGuard × TlsnValidationResult :=
  if !crypto.signatureValid then
    (g,
      { available := true, signatureValid := false
        failures := ["TLSNotary: presentation signature invalid — " ++
          crypto.error.getD "verification failed"] })
  else
    let body := crypto.verifiedBody.getD ""
    let server := checkServer R requirement crypto.verifiedServerName
    let freshness := checkFreshness R requirement now crypto.verifiedTime
    let conditions := requirement.conditions.getD []
    let evaluated := conditions.map (checkCondition R body)
    (g.add (presentationHash R presentation) now,
      { available := true
        signatureValid := true
        serverIdentityValid := !server.checks.isEmpty
        conditionResults := conditions.map fun c => (c, evaluateCondition R c body)
        attestationFresh := !freshness.checks.isEmpty
        verifiedData := some
          { serverName := crypto.verifiedServerName.getD ""
            revealedBody := body
            revealedHeaders := crypto.verifiedHeaders
            sessionTimestamp := crypto.verifiedTime.getD (.ofInt 0) }
        checks := ["TLSNotary: presentation signature valid (cryptographically verified)"] ++
          server.checks ++ freshness.checks ++ evaluated.flatMap Findings.checks
        failures := server.failures ++ freshness.failures ++
          evaluated.flatMap Findings.failures })

/-! ## A validation without failures -/

/-- Everything the second turn asks of the presentation apart from its age. -/
structure Establishes (requirement : TlsnRequirement) (crypto : VerifierBinaryResult) : Prop where
  signature : crypto.signatureValid = true
  server : ∀ expected, expectedHostname R requirement = some expected →
    crypto.verifiedServerName = some expected
  conditions : ∀ condition ∈ requirement.conditions.getD [],
    (evaluateCondition R condition (crypto.verifiedBody.getD "")).passed = true

/-- The presentation carries a time, and is fresh at `now`. -/
def FreshAt (requirement : TlsnRequirement) (crypto : VerifierBinaryResult) (now : JsNumber) :
    Prop :=
  ∃ time, crypto.verifiedTime = some time ∧ isFresh requirement now time = true

variable {R}

variable {requirement : TlsnRequirement} {now : JsNumber}

theorem checkServer_failures {serverName : Option String} :
    (checkServer R requirement serverName).failures = [] ↔
      ∀ expected, expectedHostname R requirement = some expected → serverName = some expected := by
  unfold checkServer
  split
  next hnone => simp [hnone]
  next expected hsome =>
    by_cases hname : serverName = some expected
    · simp [hsome, hname]
    · simp [hsome, hname]

theorem checkFreshness_failures {time : Option JsNumber} :
    (checkFreshness R requirement now time).failures = [] ↔
      ∃ t, time = some t ∧ isFresh requirement now t = true := by
  unfold checkFreshness
  split
  next => simp
  next t =>
    by_cases hfresh : isFresh requirement now t = true
    · simp [hfresh]
    · simp [hfresh]

theorem fresh_finite {tlsn : TlsnRequirement} {time : JsNumber} (h : isFresh tlsn now time = true) :
    ∃ t n : ℚ, time = .fin t ∧ now = .fin n ∧ t * 1000 ≤ n ∧
      (JsNumber.fin (n - t * 1000)).lt ((maxAgeSeconds tlsn).scale 1000) = true := by
  unfold isFresh at h
  obtain ⟨hage, hyoung⟩ := (Bool.and_eq_true _ _).mp h
  obtain ⟨q, hq, hfin⟩ := JsNumber.exists_fin_of_nonneg_of_lt hage hyoung
  obtain ⟨n, y, rfl, hscale, rfl⟩ := JsNumber.sub_eq_fin hfin
  cases time with
  | fin t =>
    obtain rfl : t * 1000 = y := JsNumber.fin.inj hscale
    rw [hfin] at hyoung
    exact ⟨t, n, rfl, rfl, by linarith, hyoung⟩
  | nan | posInf | negInf => cases hscale

theorem checkCondition_failures {body : String} {condition : TlsnCondition} :
    (checkCondition R body condition).failures = [] ↔
      (evaluateCondition R condition body).passed = true := by
  unfold checkCondition
  split
  next h => simp [h]
  next h => simp [h]

/-- What a validation without failures has established. -/
theorem finish_failures_eq_nil {g : ReplayGuard} {presentation : String}
    {crypto : VerifierBinaryResult} :
    (finishValidateTlsn R g now presentation requirement crypto).2.failures = [] ↔
      Establishes R requirement crypto ∧ FreshAt requirement crypto now := by
  unfold finishValidateTlsn
  by_cases hsignature : crypto.signatureValid = true
  · simp only [hsignature, Bool.not_true, Bool.false_eq_true, if_false, List.append_eq_nil_iff,
      checkServer_failures, checkFreshness_failures, List.flatMap_eq_nil_iff, List.mem_map,
      forall_exists_index, and_imp, forall_apply_eq_imp_iff₂, checkCondition_failures]
    constructor
    · rintro ⟨⟨hserver, hfresh⟩, hconditions⟩
      exact ⟨⟨hsignature, hserver, hconditions⟩, hfresh⟩
    · rintro ⟨hestablishes, hfresh⟩
      exact ⟨⟨hestablishes.server, hfresh⟩, hestablishes.conditions⟩
  · simp only [hsignature, Bool.not_false, if_true, List.cons_ne_nil, false_iff, not_and]
    intro hestablishes
    exact absurd hestablishes.signature hsignature

end Anchr.Proofs
