import Anchr.Infra.Json

/-!
# Strings as bytes and as code units

`TextEncoder.encode`, the hexadecimal text of bytes, and the length the language gives a string.
-/

namespace Anchr.Infra

/-- `string.length`: a character above U+FFFF counts as two code units. -/
def utf16Length (s : String) : Nat :=
  s.toList.foldl (fun n c => n + if c.toNat < 0x10000 then 1 else 2) 0

/-- White space and line terminators of the language, as `trim` strips them. -/
def isJsSpace (c : Char) : Bool :=
  let n := c.toNat
  (0x09 ≤ n && n ≤ 0x0D) || n == 0x20 || n == 0xA0 || n == 0x1680 || (0x2000 ≤ n && n ≤ 0x200A)
    || n == 0x2028 || n == 0x2029 || n == 0x202F || n == 0x205F || n == 0x3000 || n == 0xFEFF

/-- `s.trim()`, on the characters. -/
def trimmed (l : List Char) : List Char :=
  ((l.dropWhile isJsSpace).reverse.dropWhile isJsSpace).reverse

/-- `s.slice(0, n)`, on the characters. One that only fits by half is left out. -/
def firstUnits : Nat → List Char → List Char
  | _, [] => []
  | n, c :: rest =>
    let units := if c.toNat < 0x10000 then 1 else 2
    if units ≤ n then c :: firstUnits (n - units) rest else []

/-- `new TextEncoder().encode(s)`. -/
def utf8 (s : String) : List UInt8 := s.toUTF8.data.toList

/-- The bytes determine the string. A `String` holds no lone surrogates, which `TextEncoder` would
all replace by U+FFFD. -/
theorem utf8_injective : Function.Injective utf8 := by
  intro s t h
  have hdata : s.toByteArray.data = t.toByteArray.data := Array.toList_inj.mp h
  exact String.toByteArray_inj.mp (ByteArray.ext_iff.mpr hdata)

theorem hexDigit_inj {m n : Nat} (hm : m < 16) (hn : n < 16)
    (h : Json.hexDigit m = Json.hexDigit n) : m = n := by
  have hall : ∀ i ∈ List.range 16, ∀ j ∈ List.range 16,
      Json.hexDigit i = Json.hexDigit j → i = j := by decide
  exact hall m (List.mem_range.mpr hm) n (List.mem_range.mpr hn) h

/-- The digits of one byte, high half first. -/
def hexByte (b : UInt8) : List Char :=
  [Json.hexDigit (b.toNat / 16), Json.hexDigit (b.toNat % 16)]

theorem hexByte_injective : Function.Injective hexByte := by
  intro a b h
  simp only [hexByte, List.cons.injEq, and_true] at h
  have ha := a.toNat_lt
  have hb := b.toNat_lt
  have hhigh := hexDigit_inj (by omega) (by omega) h.1
  have hlow := hexDigit_inj (by omega) (by omega) h.2
  exact UInt8.toNat_inj.mp (by omega)

/-- Two digits for each byte. -/
def bytesToHex (bytes : List UInt8) : String := String.ofList (bytes.flatMap hexByte)

/-- The text determines the bytes. -/
theorem bytesToHex_injective : Function.Injective bytesToHex := by
  intro as bs h
  have hchars : as.flatMap hexByte = bs.flatMap hexByte := String.ofList_injective h
  clear h
  -- Every byte takes two digits, so both texts are used up byte by byte.
  induction as generalizing bs with
  | nil =>
    cases bs with
    | nil => rfl
    | cons b bs => simp [hexByte] at hchars
  | cons a as ih =>
    cases bs with
    | nil => simp [hexByte] at hchars
    | cons b bs =>
      rw [List.flatMap_cons, List.flatMap_cons] at hchars
      obtain ⟨hbyte, hrest⟩ := List.append_inj hchars rfl
      rw [hexByte_injective hbyte, ih hrest]

/-! ## Hexadecimal numbers -/

/-- `n.toString(16)`. -/
def hexNat (n : Nat) : List Char :=
  if n = 0 then ['0'] else (Nat.digits 16 n).reverse.map Json.hexDigit

/-- `s.padStart(length, c)`, for characters of one code unit. -/
def padStart (length : Nat) (c : Char) (l : List Char) : List Char :=
  List.replicate (length - l.length) c ++ l

/-- The number a hexadecimal text stands for. -/
def hexNumber (l : List Char) : Nat :=
  Nat.ofDigits 16 (l.reverse.map fun c => (Json.hexValue c).getD 0)

theorem hexValue_hexDigit {d : Nat} (h : d < 16) : Json.hexValue (Json.hexDigit d) = some d := by
  have hall : ∀ e ∈ List.range 16, Json.hexValue (Json.hexDigit e) = some e := by decide
  exact hall d (List.mem_range.mpr h)

theorem hexNumber_hexNat (n : Nat) : hexNumber (hexNat n) = n := by
  unfold hexNumber hexNat
  split
  next h => rw [h]; decide
  have hvalues : (Nat.digits 16 n).map (fun d => (Json.hexValue (Json.hexDigit d)).getD 0)
      = Nat.digits 16 n := by
    refine List.map_congr_left (g := id) (fun d hd => ?_) |>.trans (List.map_id _)
    rw [hexValue_hexDigit (Nat.digits_lt_base (by decide) hd)]
    rfl
  rw [← List.map_reverse, List.reverse_reverse, List.map_map]
  show Nat.ofDigits 16 ((Nat.digits 16 n).map fun d => (Json.hexValue (Json.hexDigit d)).getD 0) = n
  rw [hvalues, Nat.ofDigits_digits]

theorem hexNumber_padStart (length : Nat) (l : List Char) :
    hexNumber (padStart length '0' l) = hexNumber l := by
  have hzero : (Json.hexValue '0').getD 0 = 0 := by decide
  unfold hexNumber padStart
  rw [List.reverse_append, List.map_append, List.reverse_replicate, List.map_replicate, hzero,
    Nat.ofDigits_append_replicate_zero]

/-- Fails on an odd number of characters and on a character that is no digit. -/
def hexToBytes (hex : String) : Option (List UInt8) :=
  go hex.toList
where
  go : List Char → Option (List UInt8)
    | [] => some []
    | [_] => none
    | a :: b :: rest => do
      let high ← Json.hexValue a
      let low ← Json.hexValue b
      return UInt8.ofNat (16 * high + low) :: (← go rest)

theorem hexToBytes_bytesToHex (bytes : List UInt8) :
    hexToBytes (bytesToHex bytes) = some bytes := by
  unfold hexToBytes bytesToHex
  rw [String.toList_ofList]
  induction bytes with
  | nil => rfl
  | cons b rest ih =>
    have hb := b.toNat_lt
    have hbyte : UInt8.ofNat (16 * (b.toNat / 16) + b.toNat % 16) = b := by
      rw [Nat.div_add_mod, UInt8.ofNat_toNat]
    show hexToBytes.go (Json.hexDigit _ :: Json.hexDigit _ :: rest.flatMap hexByte) = _
    rw [hexToBytes.go, hexValue_hexDigit (by omega), hexValue_hexDigit (by omega), ih]
    exact congrArg (fun x => some (x :: rest)) hbyte

/-! ## Base64 -/

def base64Digit (n : Nat) : Char :=
  ("ABCDEFGHIJKLMNOPQRSTUVWXYZabcdefghijklmnopqrstuvwxyz0123456789+/".toList[n]?).getD '='

/-- `btoa` of the bytes as a binary string. -/
def base64Encode (bytes : List UInt8) : String := String.ofList (go bytes)
where
  go : List UInt8 → List Char
    | [] => []
    | [a] => [base64Digit (a.toNat / 4), base64Digit (a.toNat % 4 * 16), '=', '=']
    | [a, b] =>
      [base64Digit (a.toNat / 4), base64Digit (a.toNat % 4 * 16 + b.toNat / 16),
        base64Digit (b.toNat % 16 * 4), '=']
    | a :: b :: c :: rest =>
      base64Digit (a.toNat / 4) :: base64Digit (a.toNat % 4 * 16 + b.toNat / 16) ::
        base64Digit (b.toNat % 16 * 4 + c.toNat / 64) :: base64Digit (c.toNat % 64) :: go rest

example : base64Encode (utf8 "anchr") = "YW5jaHI=" := by decide

/-- The value of a digit of either alphabet. -/
def base64Value (c : Char) : Option Nat :=
  if c.isUpper then some (c.toNat - 0x41)
  else if c.isLower then some (c.toNat - 0x61 + 26)
  else if c.isDigit then some (c.toNat - 0x30 + 52)
  else if c = '+' ∨ c = '-' then some 62
  else if c = '/' ∨ c = '_' then some 63
  else none

/-- `Buffer.from(s, "base64")`: the text ends at its first `=`, everything that is no digit is
skipped, and a digit that makes no byte is dropped. -/
def base64Decode (s : String) : List UInt8 :=
  go ((s.toList.takeWhile (· ≠ '=')).filterMap base64Value)
where
  go : List Nat → List UInt8
    | a :: b :: c :: d :: rest =>
      .ofNat (a * 4 + b / 16) :: .ofNat (b % 16 * 16 + c / 4) :: .ofNat (c % 4 * 64 + d) :: go rest
    | [a, b, c] => [.ofNat (a * 4 + b / 16), .ofNat (b % 16 * 16 + c / 4)]
    | [a, b] => [.ofNat (a * 4 + b / 16)]
    | _ => []

example : base64Decode (base64Encode (utf8 "anchr")) = utf8 "anchr" := by decide

/-! ## Hashes with known digests -/

/-- The bytes a hexadecimal text stands for. -/
def bytesOfHex (hex : String) : List UInt8 :=
  go hex.toList
where
  go : List Char → List UInt8
    | a :: b :: rest =>
      UInt8.ofNat ((Json.hexValue a).getD 0 * 16 + (Json.hexValue b).getD 0) :: go rest
    | _ => []

/-- A hash with the given digests, which puts a zero byte before every other text. -/
def digestTable (table : List (String × String)) (bytes : List UInt8) : List UInt8 :=
  match table.find? fun entry => utf8 entry.1 = bytes with
  | some entry => bytesOfHex entry.2
  | none => 0 :: bytes

/-- Distinct digests, none of which starts with a zero byte, make the hash injective. -/
theorem digestTable_injective {table : List (String × String)}
    (hdistinct : (table.map fun entry => bytesOfHex entry.2).Nodup)
    (hhead : ∀ entry ∈ table, (bytesOfHex entry.2).head? ≠ some 0) :
    Function.Injective (digestTable table) := by
  intro a b h
  unfold digestTable at h
  split at h
  next x hx =>
    have ha : utf8 x.1 = a := by simpa using List.find?_some hx
    split at h
    next y hy =>
      have hb : utf8 y.1 = b := by simpa using List.find?_some hy
      have hxy := List.inj_on_of_nodup_map hdistinct (List.mem_of_find?_eq_some hx)
        (List.mem_of_find?_eq_some hy) h
      rw [← ha, ← hb, hxy]
    next => exact absurd (congrArg List.head? h) (hhead x (List.mem_of_find?_eq_some hx))
  split at h
  next y hy =>
    exact absurd (congrArg List.head? h.symm) (hhead y (List.mem_of_find?_eq_some hy))
  next => exact (List.cons.inj h).2

end Anchr.Infra
