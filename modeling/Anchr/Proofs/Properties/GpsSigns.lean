import Anchr.Proofs.C2paValidation

/-!
# Signs of signed positions

A southern or western direction is given by a `Ref` member or by the last letter of the value. The
`Ref` turns the sign of the parsed value, so that a value with a sign of its own comes out positive;
and minutes and seconds are added to the degrees, whatever their sign.
-/

namespace Anchr.Proofs

open Infra

variable {R : C2paTools}

/-! ## Directions -/

/-- `ref.toUpperCase().startsWith(letter)`, of a string. -/
def RefGives (letter : Char) (ref : Option Json) : Prop :=
  ∃ text, ref = some (.str text) ∧ text.toList.head?.any (upperStarts letter).contains = true

def SuffixGives (letter : Char) (raw : Json) : Prop :=
  ∃ text, raw = .str text ∧ text.toList.getLast?.any [letter, letter.toLower].contains = true

/-- The members of an assertion that one coordinate is read from, and the negative direction. -/
structure Axis where
  field : String
  refField : String
  letter : Char
  coord : GpsCoord → JsNumber

/-- South is negative. -/
def latitude : Axis := ⟨"GPSLatitude", "GPSLatitudeRef", 'S', GpsCoord.lat⟩

/-- West is negative. -/
def longitude : Axis := ⟨"GPSLongitude", "GPSLongitudeRef", 'W', GpsCoord.lon⟩

/-- If the negative direction is given, the coordinate is non-positive and has the magnitude of the
parsed value. -/
def Axis.SignKept (axis : Axis) (R : C2paTools) (data : Json) (position : GpsCoord) : Prop :=
  ∀ raw v, lookupGpsKeys data axis.field = some raw → parseGpsValue R raw = some (.fin v) →
    RefGives axis.letter (lookupGpsKeys data axis.refField) ∨ SuffixGives axis.letter raw →
      axis.coord position = .fin (-|v|)

/-- The value under a `Ref` in the negative direction is not negative. -/
def Axis.Unsigned (axis : Axis) (R : C2paTools) (data : Json) : Prop :=
  ∀ raw v, lookupGpsKeys data axis.field = some raw → parseGpsValue R raw = some (.fin v) →
    RefGives axis.letter (lookupGpsKeys data axis.refField) → 0 ≤ v

theorem applyGpsDirection_iff {letter : Char} {ref : Option Json} {raw : Json} {v : ℚ}
    (hgiven : RefGives letter ref ∨ SuffixGives letter raw) :
    applyGpsDirection (.fin v) ref raw letter = .fin (-|v|) ↔ (RefGives letter ref → 0 ≤ v) := by
  by_cases href : RefGives letter ref
  · obtain ⟨text, rfl, hstarts⟩ := id href
    rw [applyGpsDirection, if_pos hstarts, JsNumber.neg, JsNumber.fin.injEq, neg_inj]
    exact ⟨fun h _ => abs_eq_self.mp h.symm, fun h => (abs_of_nonneg (h href)).symm⟩
  · obtain ⟨text, rfl, hends⟩ := hgiven.resolve_left href
    refine iff_of_true ?_ fun h => absurd h href
    have hsuffix : applyGpsDirection.negatedBySuffix (.fin v) letter (.str text) = .fin (-|v|) :=
      if_pos hends
    unfold applyGpsDirection
    split
    next text' => rw [if_neg fun h => href ⟨text', rfl, h⟩, hsuffix]
    next => exact hsuffix

variable {position : GpsCoord} {data : Json} {axis : Axis} {d : ℚ}

/-- What an assertion gives each coordinate. -/
theorem assertionGps_some (h : assertionGps R data = some position)
    (haxis : axis = latitude ∨ axis = longitude) :
    ∃ raw value, lookupGpsKeys data axis.field = some raw ∧ parseGpsValue R raw = some value ∧
      axis.coord position =
        applyGpsDirection value (lookupGpsKeys data axis.refField) raw axis.letter := by
  unfold assertionGps at h
  obtain ⟨latRaw, hlatRaw, h⟩ := Option.bind_eq_some_iff.mp h
  obtain ⟨lonRaw, hlonRaw, h⟩ := Option.bind_eq_some_iff.mp h
  obtain ⟨lat, hlat, h⟩ := Option.bind_eq_some_iff.mp h
  obtain ⟨lon, hlon, h⟩ := Option.bind_eq_some_iff.mp h
  dsimp only at h
  split at h
  next => cases h
  cases h
  rcases haxis with rfl | rfl
  · exact ⟨latRaw, lat, hlatRaw, hlat, rfl⟩
  · exact ⟨lonRaw, lon, hlonRaw, hlon, rfl⟩

theorem Axis.signKept_iff (haxis : axis = latitude ∨ axis = longitude)
    (h : assertionGps R data = some position) :
    axis.SignKept R data position ↔ axis.Unsigned R data := by
  obtain ⟨raw, value, hraw, hvalue, hcoord⟩ := assertionGps_some h haxis
  have hgiven : ∀ {raw' v}, lookupGpsKeys data axis.field = some raw' →
      parseGpsValue R raw' = some (.fin v) → raw = raw' ∧ value = .fin v := by
    intro raw' v hraw' hv
    obtain rfl := Option.some.inj (hraw.symm.trans hraw')
    exact ⟨rfl, Option.some.inj (hvalue.symm.trans hv)⟩
  constructor
  · intro hkept raw' v hraw' hv href
    obtain ⟨rfl, rfl⟩ := hgiven hraw' hv
    have hlaw := hkept raw v hraw hv (.inl href)
    rw [hcoord] at hlaw
    exact (applyGpsDirection_iff (.inl href)).mp hlaw href
  · intro hunsigned raw' v hraw' hv hdirection
    obtain ⟨rfl, rfl⟩ := hgiven hraw' hv
    rw [hcoord]
    exact (applyGpsDirection_iff hdirection).mpr (hunsigned raw v hraw hv)

/-! ## Degrees, minutes and seconds -/

/-- The numbers between the commas of a value. -/
def gpsFields (R : C2paTools) (raw : String) : List JsNumber :=
  ((cleanedGps raw.toList).splitOn ',').map fun s => parseFloat R.round (trimmed s)

/-- What minutes and seconds add to the degrees. -/
def minutesValue : List ℚ → ℚ
  | [m] => m / 60
  | [m, s] => m / 60 + s / 3600
  | _ => 0

theorem parseGpsValue_fields (hround : R.round = .fin) {raw : String} {rest : List ℚ}
    (hfields : gpsFields R raw = (d :: rest).map .fin) (hrest : rest.length = 1 ∨ rest.length = 2) :
    parseGpsValue R (.str raw) = some (.fin (d + minutesValue rest)) := by
  -- with more than one field there is a comma
  have hcomma : (cleanedGps raw.toList).contains ',' = true := by
    by_contra hnone
    have hlength := congrArg List.length hfields
    rw [gpsFields, List.length_map, List.splitOn_eq_singleton (by simpa using hnone)] at hlength
    rw [List.length_singleton, List.length_map, List.length_cons] at hlength
    omega
  unfold gpsFields at hfields
  simp only [parseGpsValue, hcomma, hfields, Bool.not_true, Bool.false_and, Bool.false_eq_true,
    if_false]
  rw [if_neg (by simp [JsNumber.isFinite])]
  match rest, hrest with
  | [m], _ =>
    simp [fromDegrees, hround, JsNumber.scale, JsNumber.rounded, JsNumber.add, minutesValue,
      div_eq_mul_inv]
  | [m, s], _ =>
    simp [fromDegrees, hround, JsNumber.scale, JsNumber.rounded, JsNumber.add, minutesValue,
      div_eq_mul_inv, add_assoc]

theorem neg_add_eq_neg_iff {m : ℚ} : -d + m = -(d + m) ↔ m = 0 := by
  constructor <;> intro h <;> linarith

/-! ## The laws -/

/-- Over exact rationals. For every assertion that gives a position: both directions keep their sign
if and only if the values under a southern or western `Ref` are not negative. For all values with
minutes, or minutes and seconds, that differ in the sign of the degrees: one is the negative of the
other if and only if minutes and seconds add nothing. -/
theorem gps_signs_iff (hround : R.round = .fin) :
    (∀ data position, assertionGps R data = some position →
      (latitude.SignKept R data position ∧ longitude.SignKept R data position ↔
        latitude.Unsigned R data ∧ longitude.Unsigned R data)) ∧
    ∀ raw raw' d rest, gpsFields R raw = (d :: rest).map .fin →
      gpsFields R raw' = (-d :: rest).map .fin → rest.length = 1 ∨ rest.length = 2 →
      ∃ v, parseGpsValue R (.str raw) = some (.fin v) ∧
        (parseGpsValue R (.str raw') = some (.fin (-v)) ↔ minutesValue rest = 0) := by
  refine ⟨fun data position h => ?_, fun raw raw' d rest hraw hraw' hrest => ?_⟩
  · exact and_congr (Axis.signKept_iff (.inl rfl) h) (Axis.signKept_iff (.inr rfl) h)
  · refine ⟨_, parseGpsValue_fields hround hraw hrest, ?_⟩
    rw [parseGpsValue_fields hround hraw' hrest, Option.some.injEq, JsNumber.fin.injEq]
    exact neg_add_eq_neg_iff

theorem unsigned_of_nonneg {raw : Json} {v : ℚ} (hraw : lookupGpsKeys data axis.field = some raw)
    (hv : parseGpsValue R raw = some (.fin v)) (h : 0 ≤ v) : axis.Unsigned R data := by
  intro raw' v' hraw' hv' _
  rw [hraw] at hraw'
  cases hraw'
  rw [hv] at hv'
  cases hv'
  exact h

/-- Numbers are exact. -/
def exactTools : C2paTools where
  text := .safeIntegers
  round := .fin
  haversineKm _ _ := .nan
  hidden _ _ := false
  toolPath := none

/-- A photo at the given latitude and two degrees west. -/
def southWest (lat ref : String) : Json :=
  .obj [("EXIF:GPSLatitude", .str lat), ("EXIF:GPSLatitudeRef", .str ref),
    ("EXIF:GPSLongitude", .str "2W")]

/-- A southern latitude without a sign keeps its direction, and degrees without minutes keep theirs. -/
theorem gps_signs_southern :
    assertionGps exactTools (southWest "35.5" "South") = some ⟨.fin (-71 / 2), .fin (-2)⟩ ∧
      latitude.SignKept exactTools (southWest "35.5" "South") ⟨.fin (-71 / 2), .fin (-2)⟩ ∧
      longitude.SignKept exactTools (southWest "35.5" "South") ⟨.fin (-71 / 2), .fin (-2)⟩ ∧
      ∃ v, parseGpsValue exactTools (.str "35,0N") = some (.fin v) ∧
        parseGpsValue exactTools (.str "-35,0N") = some (.fin (-v)) := by
  have hposition : assertionGps exactTools (southWest "35.5" "South") =
      some ⟨.fin (-71 / 2), .fin (-2)⟩ := by decide +kernel
  have hlat : parseGpsValue exactTools (.str "35.5") = some (.fin (71 / 2)) := by decide +kernel
  have hlon : parseGpsValue exactTools (.str "2W") = some (.fin 2) := by decide +kernel
  obtain ⟨hlatitude, hlongitude⟩ := ((gps_signs_iff rfl).1 _ _ hposition).mpr
    ⟨unsigned_of_nonneg rfl hlat (by norm_num), unsigned_of_nonneg rfl hlon (by norm_num)⟩
  obtain ⟨v, hv, hneg⟩ := (gps_signs_iff (R := exactTools) rfl).2 "35,0N" "-35,0N" 35 [0]
    (by decide +kernel) (by decide +kernel) (.inl rfl)
  exact ⟨hposition, hlatitude, hlongitude, v, hv, hneg.mpr (by decide +kernel)⟩

/-- South of the equator with a sign comes out north of it; and with a sign, half a degree is taken
off and not added. -/
theorem gps_signs_broken :
    assertionGps exactTools (southWest "-35.5" "S") = some ⟨.fin (71 / 2), .fin (-2)⟩ ∧
    parseGpsValue exactTools (.str "35,30") = some (.fin (71 / 2)) ∧
    parseGpsValue exactTools (.str "-35,30") = some (.fin (-69 / 2)) := by
  decide +kernel

end Anchr.Proofs
