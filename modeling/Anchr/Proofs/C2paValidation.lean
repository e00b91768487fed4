import Anchr.Infra.Decimals
import Anchr.Proofs.TlsnTypes

/-!
# Content Credentials

`proofs/c2pa-validation.ts` and `proofs/geo.ts`: what a run of `c2patool` says about a file, and
whether its signed position is near the expected one. A report is any JSON value; where the source
reads a member of something that has none, it throws, and so does the validation.
-/

namespace Anchr.Proofs

open Infra

/-- A position in degrees. -/
structure GpsCoord where
  lat : JsNumber
  lon : JsNumber
  deriving DecidableEq

/-- What the libraries and the file system give. -/
structure C2paTools where
  text : NumberText
  /-- The double next to a value. -/
  round : ℚ → JsNumber
  /-- The distance of two positions in kilometres. -/
  haversineKm : GpsCoord → GpsCoord → JsNumber
  /-- Whether `value[name]` is there without being an own member of an object or an array: a
  character, a method, a prototype. None of these has a member that is read here. -/
  hidden : Json → String → Bool
  /-- The path `findC2paTool` finds. -/
  toolPath : Option String

/-- The payload of a requirement. -/
structure C2paImageRequirement where
  expectedGps : Option GpsCoord := none
  maxGpsDistanceKm : Option JsNumber := none

structure C2paImageEvidence where
  gps : Option GpsCoord := none

structure C2paManifest where
  title : Option Json
  claimGenerator : Option Json
  issuer : Option Json
  time : Option Json
  assertions : Option Json

structure C2paValidationResult where
  available : Bool
  hasManifest : Bool
  signatureValid : Bool
  manifest : Option C2paManifest := none
  gps : Option GpsCoord := none
  checks : List String := []
  failures : List String := []

def defaultC2paMaxGpsDistanceKm : JsNumber := .ofInt 50

variable (R : C2paTools)

/-! ## Payloads -/

def validateGpsCoord (input : GpsCoord) : Option String :=
  if !input.lat.isFinite then some "lat must be a finite number"
  else if !input.lon.isFinite then some "lon must be a finite number"
  else if input.lat.lt (.ofInt (-90)) || (JsNumber.ofInt 90).lt input.lat then
    some ("lat must be between -90 and 90 (got " ++ R.text.toString input.lat ++ ")")
  else if input.lon.lt (.ofInt (-180)) || (JsNumber.ofInt 180).lt input.lon then
    some ("lon must be between -180 and 180 (got " ++ R.text.toString input.lon ++ ")")
  else none

/-- `isGpsCoord`. -/
def readGpsCoord (value : Json) : Option GpsCoord := do
  let lat ← value.number? "lat"
  let lon ← value.number? "lon"
  if (validateGpsCoord R { lat, lon }).isNone then some { lat, lon } else none

/-- A distance limit: a finite number above 0. -/
def readMaxDistance : Json → Option JsNumber
  | .num n => if n.isFinite && (JsNumber.ofInt 0).lt n then some n else none
  | _ => none

/-- `isC2paImageRequirement`. -/
def readC2paImageRequirement (value : Json) : Option C2paImageRequirement :=
  if value.isObject then do
    let expectedGps ← optionalMember value "expected_gps" (readGpsCoord R)
    let maxGpsDistanceKm ← optionalMember value "max_gps_distance_km" readMaxDistance
    some { expectedGps, maxGpsDistanceKm }
  else none

/-- `isC2paImageEvidence`. -/
def readC2paImageEvidence (value : Json) : Option C2paImageEvidence :=
  if value.isObject then do
    let gps ← optionalMember value "gps" (readGpsCoord R)
    some { gps }
  else none

/-! ## Distance -/

structure GpsProximity where
  checks : List String := []
  failures : List String := []
  distanceKm : Option JsNumber := none

/-- `evaluateGpsDistancePolicy(..).withinLimit`. -/
def withinLimit (gps expected : GpsCoord) (maxDistanceKm : JsNumber) : Bool :=
  (R.haversineKm gps expected).le maxDistanceKm

def evaluateC2paGpsProximity (gps : GpsCoord) (expectedGps : Option GpsCoord)
    (maxGpsDist : JsNumber) (label : String) : GpsProximity :=
  match expectedGps with
  | none =>
    { checks := [label ++ " GPS: " ++ toFixed R.text 4 gps.lat ++ ", " ++
        toFixed R.text 4 gps.lon] }
  | some expected =>
    let distanceKm := R.haversineKm gps expected
    if withinLimit R gps expected maxGpsDist then
      { checks := [label ++ " GPS within " ++ R.text.toString maxGpsDist ++ "km of expected (" ++
          toFixed R.text 1 distanceKm ++ "km)"]
        distanceKm := some distanceKm }
    else
      { failures := [label ++ " GPS " ++ toFixed R.text 1 distanceKm ++
          "km from expected location (max " ++ R.text.toString maxGpsDist ++ "km)"]
        distanceKm := some distanceKm }

structure C2paGpsBindingResult where
  passed : Bool
  distanceKm : Option JsNumber := none
  checks : List String := []
  failures : List String := []

/-- What `verifyC2paGpsBinding` says about the manifest. -/
def manifestFailures (validation : C2paValidationResult) : List String :=
  if !validation.available then
    ["C2PA: verifier unavailable — cannot bind signed GPS to expected location"]
  else if !validation.hasManifest then
    ["C2PA: no signed manifest found — cannot bind GPS to expected location"]
  else if !validation.signatureValid then
    ["C2PA: manifest signature invalid — cannot trust GPS assertion"]
  else []

def verifyC2paGpsBinding (validation : C2paValidationResult) (expectedGps : GpsCoord)
    (maxDistanceKm : JsNumber) : C2paGpsBindingResult :=
  if !maxDistanceKm.isFinite || maxDistanceKm.lt (.ofInt 0) then
    { passed := false, failures := ["C2PA GPS binding policy has an invalid distance limit"] }
  else
    let failures := manifestFailures validation
    let checks := if failures.isEmpty then ["C2PA: signed manifest verified"] else []
    match validation.gps with
    | none =>
      { passed := false
        checks := checks
        failures := failures ++ ["C2PA: signed GPS assertion missing from verified manifest"] }
    | some gps =>
      let proximity := evaluateC2paGpsProximity R gps expectedGps maxDistanceKm "C2PA: signed"
      if !failures.isEmpty then
        { passed := false, distanceKm := proximity.distanceKm, checks, failures }
      else if proximity.failures.isEmpty then
        { passed := true
          distanceKm := proximity.distanceKm
          checks := checks ++ ["C2PA: signed GPS bound to expected location (" ++
            (proximity.distanceKm.map (toFixed R.text 1)).getD "unknown" ++ "km <= " ++
            R.text.toString maxDistanceKm ++ "km)"] }
      else
        { passed := false
          distanceKm := proximity.distanceKm
          checks := checks
          failures := proximity.failures }

/-! ## Runs of the tool -/

inductive C2paRun where
  /-- The file could not be written or removed, or the process could not be started. -/
  | rejected
  /-- The exit code is not 0. -/
  | exited (stderr : String)
  | printed (stdout : String)

structure C2paToolOutcome where
  report : Option Json
  checks : List String := []
  failures : List String := []

/-- `s.toLowerCase()`, for looking for ASCII text. -/
def lowered (s : String) : List Char := s.toList.map Char.toLower

/-- `runC2paTool`; `none` when the promise rejects. -/
def runC2paTool : C2paRun → Option C2paToolOutcome
  | .rejected => none
  | .exited stderr =>
    if "no claim found".toList <:+: lowered stderr ∨ "manifestnotfound".toList <:+: lowered stderr ∨
        "no manifest".toList <:+: lowered stderr then
      some { report := none, checks := ["no C2PA manifest found"] }
    else
      some
        { report := none
          failures := ["c2patool error: " ++
            String.ofList (firstUnits 200 (trimmed stderr.toList))] }
  | .printed stdout =>
    match Json.parse R.text stdout with
    | some report => some { report := some report }
    | none => some { report := none, failures := ["failed to parse c2patool JSON output"] }

/-! ## The active manifest -/

/-- `value[name]`. What is hidden is truthy and has no members to read. -/
def memberOf (value : Json) (name : String) : Option Json :=
  match value.ownProperty R.text name with
  | some found => some found
  | none => if R.hidden value name then some (.obj []) else none

def truthyMember (value : Json) (name : String) : Option Json :=
  (value.get? name).filter Json.truthy

/-- `parseActiveManifest`; the outer `none` when it throws. -/
def parseActiveManifest (report : Json) : Option (Option Json) :=
  match truthyMember report "manifests", truthyMember report "active_manifest" with
  | some manifests, some activeManifestLabel =>
    (stringOf R.text activeManifestLabel).map fun label =>
      (memberOf R manifests label).filter Json.truthy
  | _, _ => some none

def buildManifest (active : Json) : C2paManifest where
  title := active.get? "title"
  claimGenerator := active.get? "claim_generator"
  issuer := (truthyMember active "signature_info").bind (·.get? "issuer")
  time := (truthyMember active "signature_info").bind (·.get? "time")
  assertions := truthyMember active "assertions"

/-! ## The signature -/

/-- `successCodes.some((v) => v.code === "claimSignature.validated")`; `none` when it throws. -/
def claimSignatureOk : List Json → Option Bool
  | [] => some false
  | .null :: _ => none
  | v :: rest =>
    if v.string? "code" = some "claimSignature.validated" then some true else claimSignatureOk rest

/-- Empty on purpose. -/
def ignorableFailureCodes : List String := []

/-- `failureCodes.filter((v) => !IGNORABLE_FAILURE_CODES.has(v.code))`; `none` when it throws. -/
def realFailures : List Json → Option (List Json)
  | [] => some []
  | .null :: _ => none
  | v :: rest =>
    if (v.string? "code").any ignorableFailureCodes.contains then realFailures rest
    else (realFailures rest).map (v :: ·)

/-- `report.validation_results?.activeManifest?.[name] ?? []`; `none` when it is no array, which
has neither `some` nor `filter`. -/
def statusCodes (report : Json) (name : String) : Option (List Json) :=
  match ((report.get? "validation_results").bind (·.get? "activeManifest")).bind (·.get? name) with
  | none | some .null => some []
  | some (.arr codes) => some codes
  | some _ => none

/-- `evaluateSignature`; `none` when it throws. -/
def evaluateSignature (report : Json) : Option Bool := do
  let successCodes ← statusCodes report "success"
  let failureCodes ← statusCodes report "failure"
  let ok ← claimSignatureOk successCodes
  let failures ← realFailures failureCodes
  some (ok && failures.isEmpty)

/-! ## The position -/

def gpsKeyPrefixes : List String := ["EXIF:", "exif:", "@exif:"]

/-- `lookupGpsKeys`: the first member that is neither `undefined` nor `null`. -/
def lookupGpsKeys (data : Json) (field : String) : Option Json :=
  gpsKeyPrefixes.findSome? fun start =>
    match data.get? (start ++ field) with
    | none | some .null => none
    | some value => some value

/-- `raw.replace(/[NSEW]$/i, "").trim()`. -/
def cleanedGps (raw : List Char) : List Char :=
  trimmed
    (match raw.getLast? with
      | some c => if "NSEWnsew".toList.contains c then raw.dropLast else raw
      | none => raw)

/-- `parts[0] + parts[1] / 60`, and the seconds if there are any. -/
def fromDegrees : List JsNumber → Option JsNumber
  | [d, m] => some ((d.add ((m.scale (1 / 60)).rounded R.round)).rounded R.round)
  | [d, m, s] =>
    some ((((d.add ((m.scale (1 / 60)).rounded R.round)).rounded R.round).add
      ((s.scale (1 / 3600)).rounded R.round)).rounded R.round)
  | _ => none

/-- A number, a decimal, or degrees with minutes and seconds. -/
def parseGpsValue : Json → Option JsNumber
  | .num n => some n
  | .str raw =>
    let cleaned := cleanedGps raw.toList
    let decimal := parseFloat R.round cleaned
    if !cleaned.contains ',' && decimal.isFinite then some decimal
    else
      let parts := (cleaned.splitOn ',').map fun s => parseFloat R.round (trimmed s)
      if parts.any (!·.isFinite) then none else fromDegrees R parts
  | _ => none

/-- The characters whose upper case starts with the letter. -/
def upperStarts (letter : Char) : List Char :=
  if letter = 'S' then ['S', 's', '\u017F', '\u00DF', '\uFB05', '\uFB06']
  else if letter = 'W' then ['W', 'w', '\u1E98']
  else []

/-- `Math.abs`, then the sign turned. -/
def negAbs : JsNumber → JsNumber
  | .fin q => .fin (-|q|)
  | .nan => .nan
  | _ => .negInf

def applyGpsDirection (value : JsNumber) (ref : Option Json) (raw : Json) (negativeChar : Char) :
    JsNumber :=
  match ref, raw with
  | some (.str ref), raw =>
    if ref.toList.head?.any (upperStarts negativeChar).contains then value.neg
    else negatedBySuffix raw
  | _, raw => negatedBySuffix raw
where
  /-- The direction is the last letter of the value. -/
  negatedBySuffix : Json → JsNumber
    | .str raw =>
      if raw.toList.getLast?.any [negativeChar, negativeChar.toLower].contains then negAbs value
      else value
    | _ => value

/-- `assertion.label.includes("exif")`; `none` when it throws. -/
def isExifAssertion (assertion : Json) : Option Bool :=
  match assertion.get? "label" with
  | some (.str label) => some (decide ("exif".toList <:+: label.toList))
  | some (.arr labels) => some (labels.any fun label => label.asString? == some "exif")
  | _ => none

/-- The position in the data of an assertion, unless it is the origin. -/
def assertionGps (data : Json) : Option GpsCoord := do
  let latRaw ← lookupGpsKeys data "GPSLatitude"
  let lonRaw ← lookupGpsKeys data "GPSLongitude"
  let lat ← parseGpsValue R latRaw
  let lon ← parseGpsValue R lonRaw
  let gps : GpsCoord :=
    { lat := applyGpsDirection lat (lookupGpsKeys data "GPSLatitudeRef") latRaw 'S'
      lon := applyGpsDirection lon (lookupGpsKeys data "GPSLongitudeRef") lonRaw 'W' }
  if gps.lat.strictEq (.ofInt 0) && gps.lon.strictEq (.ofInt 0) then none else some gps

/-- The loop of `extractC2paGps`; the outer `none` when it throws. -/
def exifGps : List Json → Option (Option GpsCoord)
  | [] => some none
  | assertion :: rest =>
    match isExifAssertion assertion with
    | none => none
    | some exif =>
      match if exif then (truthyMember assertion "data").bind (assertionGps R) else none with
      | some gps => some (some gps)
      | none => exifGps rest

/-- `extractC2paGps`, on assertions that are truthy. A text is a sequence of characters, and none
of them has a label. -/
def extractC2paGps : Option Json → Option (Option GpsCoord)
  | none => some none
  | some (.arr assertions) => exifGps R assertions
  | some _ => none

/-! ## Validation -/

def supportedExtensions : List String :=
  [".jpg", ".jpeg", ".png", ".webp", ".heic", ".heif", ".mp4", ".mov"]

/-- `(filename.match(/\.[^.]+$/)?.[0] ?? "").toLowerCase()`. Every supported extension is ASCII. -/
def extensionOf (filename : String) : String :=
  let tail := (filename.toList.reverse.takeWhile (· ≠ '.')).reverse
  if tail.isEmpty ∨ tail.length = filename.toList.length then ""
  else String.ofList ('.' :: tail.map Char.toLower)

def noToolResult : C2paValidationResult where
  available := false
  hasManifest := false
  signatureValid := false
  checks := ["c2patool not available (skipped)"]

def noManifestResult (checks failures : List String) : C2paValidationResult where
  available := true
  hasManifest := false
  signatureValid := false
  checks := checks
  failures := failures

/-- A line about a member, if it is truthy; `none` when writing it throws. -/
def memberLine (before : String) (value : Option Json) : Option (List String) :=
  match value.filter Json.truthy with
  | none => some []
  | some value => (stringOf R.text value).map fun text => [before ++ text]

/-- What `validateC2pa` makes of a report that is truthy; `none` when it throws. -/
def validateReport (report : Json) : Option C2paValidationResult := do
  match ← parseActiveManifest R report with
  | none => some (noManifestResult ["C2PA data present but no active manifest"] [])
  | some active =>
    let manifest := buildManifest active
    let signatureValid ← evaluateSignature report
    let generator ← memberLine R "claim generator: " manifest.claimGenerator
    let signer ← memberLine R "signer: " manifest.issuer
    let signed ← memberLine R "signed at: " manifest.time
    let gps ← extractC2paGps R manifest.assertions
    some
      { available := true
        hasManifest := true
        signatureValid := signatureValid
        manifest := some manifest
        gps := gps
        checks := ["C2PA manifest found"] ++ generator ++ signer ++ signed ++
          (if signatureValid then ["C2PA signature valid"] else []) ++
          (gps.toList.map fun gps => "C2PA EXIF GPS: " ++ toFixed R.text 4 gps.lat ++ ", " ++
            toFixed R.text 4 gps.lon)
        failures := if signatureValid then [] else ["C2PA signature validation failed"] }

/-- `validateC2pa` for a file of this name, on which the tool runs like this; `none` when the
promise rejects. -/
def validateC2pa (filename : String) (run : C2paRun) : Option C2paValidationResult :=
  match R.toolPath.filter (· ≠ "") with
  | none => some noToolResult
  | some _ =>
    if !supportedExtensions.contains (extensionOf filename) then
      some (noManifestResult ["unsupported format for C2PA: " ++ extensionOf filename] [])
    else
      (runC2paTool R run).bind fun outcome =>
        match outcome.report.filter Json.truthy with
        | none => some (noManifestResult outcome.checks outcome.failures)
        | some report => validateReport R report

end Anchr.Proofs
