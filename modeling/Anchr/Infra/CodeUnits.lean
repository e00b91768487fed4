import Anchr.Infra.Text

/-!
# Strings as code units, and lenient hexadecimal

The two functions that together read a hexadecimal text without rejecting anything:
`s.match(/.{2}/g)` and `parseInt(b, 16)`.
-/

namespace Anchr.Infra

/-- Every string of the language is a list of 16-bit code units, lone surrogates included. -/
def codeUnits (s : String) : List UInt16 :=
  s.toList.flatMap fun c =>
    if c.toNat < 0x10000 then [.ofNat c.toNat]
    else [.ofNat (0xD800 + (c.toNat - 0x10000) / 0x400),
      .ofNat (0xDC00 + (c.toNat - 0x10000) % 0x400)]

/-- What `.` matches in a pattern without flags: anything but a line terminator. -/
def isDot (u : UInt16) : Bool := u ≠ 0x0A && u ≠ 0x0D && u ≠ 0x2028 && u ≠ 0x2029

/-- `s.match(/.{2}/g)`: the matches from left to right, each found at the first place where the
pattern fits. The language gives `null` where this list is empty. -/
def dotPairs : List UInt16 → List (UInt16 × UInt16)
  | a :: b :: rest =>
    if isDot a && isDot b then (a, b) :: dotPairs rest else dotPairs (b :: rest)
  | _ => []

def hexUnit (u : UInt16) : Option Nat :=
  if 0x30 ≤ u ∧ u ≤ 0x39 then some (u.toNat - 0x30)
  else if 0x61 ≤ u ∧ u ≤ 0x66 then some (u.toNat - 0x57)
  else if 0x41 ≤ u ∧ u ≤ 0x46 then some (u.toNat - 0x37)
  else none

/-- White space and line terminators; all of them are single code units. -/
def isSpaceUnit (u : UInt16) : Bool := isJsSpace (Char.ofNat u.toNat)

/-- The sign `parseInt` takes off, and what follows it. -/
def takeSign : List UInt16 → Int × List UInt16
  | [] => (1, [])
  | u :: rest => if u = 0x2D then (-1, rest) else if u = 0x2B then (1, rest) else (1, u :: rest)

/-- Radix 16 allows the digits to be introduced by `0x` or `0X`. -/
def dropHexMark : List UInt16 → List UInt16
  | a :: b :: rest => if a = 0x30 ∧ (b = 0x78 ∨ b = 0x58) then rest else a :: b :: rest
  | l => l

/-- `parseInt(s, 16)`; `none` is NaN. It reads the digits at the start and ignores the rest. -/
def parseInt16 (l : List UInt16) : Option Int :=
  let signed := takeSign (l.dropWhile isSpaceUnit)
  let digits := (dropHexMark signed.2).takeWhile fun u => (hexUnit u).isSome
  if digits.isEmpty then none
  else some (signed.1 * digits.foldl (fun n u => n * 16 + ((hexUnit u).getD 0 : Nat)) 0)

/-- What an element of a `Uint8Array` becomes on assignment. -/
def toUint8 : Option Int → UInt8
  | none => 0
  | some n => .ofNat (n % 256).toNat

/-- `new Uint8Array(s.match(/.{2}/g).map((b) => parseInt(b, 16)))`. -/
def looseBytes (l : List UInt16) : List UInt8 :=
  (dotPairs l).map fun p => toUint8 (parseInt16 [p.1, p.2])

-- odd lengths, signs, spaces and the mark `0x` are all taken
example : looseBytes (codeUnits "0aF") = [0x0a] := by decide
example : looseBytes (codeUnits " a-10x") = [0x0a, 0xff, 0] := by decide

/-- An even number of hexadecimal digits. -/
def HexText (l : List UInt16) : Prop := l.length % 2 = 0 ∧ ∀ u ∈ l, (hexUnit u).isSome

instance (l : List UInt16) : Decidable (HexText l) :=
  decidable_of_iff (l.length % 2 = 0 ∧ l.all fun u => (hexUnit u).isSome) (by simp [HexText])

/-- `toLowerCase` on the Latin capitals. -/
def lowerUnit (u : UInt16) : UInt16 := if 0x41 ≤ u ∧ u ≤ 0x5A then u + 0x20 else u

/-! ## Digits -/

def digitUnit (v : Nat) : UInt16 := .ofNat (Json.hexDigit v).toNat

variable {u a b : UInt16} {v x y : Nat}

theorem hexUnit_lt (h : hexUnit u = some v) : u.toNat < 128 := by
  unfold hexUnit at h
  simp only [UInt16.le_iff_toNat_le] at h
  split at h
  next hu => exact Nat.lt_of_le_of_lt hu.2 (by decide)
  split at h
  next hu => exact Nat.lt_of_le_of_lt hu.2 (by decide)
  split at h
  next hu => exact Nat.lt_of_le_of_lt hu.2 (by decide)
  next => simp at h

/-- A digit is no line terminator, space, sign or mark, and its value determines it up to case. -/
theorem hexUnit_spec (h : hexUnit u = some v) :
    v < 16 ∧ isDot u = true ∧ isSpaceUnit u = false ∧ u ≠ 0x2D ∧ u ≠ 0x2B ∧ u ≠ 0x78 ∧ u ≠ 0x58
      ∧ lowerUnit u = digitUnit v := by
  have hall : ∀ n ∈ List.range 128, ∀ v ∈ hexUnit (.ofNat n), v < 16 ∧
      isDot (.ofNat n) = true ∧ isSpaceUnit (.ofNat n) = false ∧ UInt16.ofNat n ≠ 0x2D ∧
      UInt16.ofNat n ≠ 0x2B ∧ UInt16.ofNat n ≠ 0x78 ∧ UInt16.ofNat n ≠ 0x58 ∧
      lowerUnit (.ofNat n) = digitUnit v := by decide +kernel
  have hu := hall u.toNat (List.mem_range.mpr (hexUnit_lt h)) v (by rw [UInt16.ofNat_toNat]; exact h)
  rwa [UInt16.ofNat_toNat] at hu

theorem hexUnit_digitUnit (h : v < 16) : hexUnit (digitUnit v) = some v := by
  have hall : ∀ v ∈ List.range 16, hexUnit (digitUnit v) = some v := by decide
  exact hall v (List.mem_range.mpr h)

theorem hexUnit_lowerUnit (h : (hexUnit u).isSome) :
    hexUnit (lowerUnit u) = hexUnit u := by
  obtain ⟨v, hv⟩ := Option.isSome_iff_exists.mp h
  obtain ⟨hlt, -, -, -, -, -, -, hlower⟩ := hexUnit_spec hv
  rw [hlower, hexUnit_digitUnit hlt, hv]

theorem parseInt16_pair (ha : hexUnit a = some x) (hb : hexUnit b = some y) :
    parseInt16 [a, b] = some ((x * 16 + y : Nat) : Int) := by
  obtain ⟨-, -, hspace, hminus, hplus, -⟩ := hexUnit_spec ha
  obtain ⟨-, -, -, -, -, hx, hX, -⟩ := hexUnit_spec hb
  have hsign : takeSign ([a, b].dropWhile isSpaceUnit) = (1, [a, b]) := by
    rw [List.dropWhile_cons, hspace, if_neg (by decide), takeSign, if_neg hminus, if_neg hplus]
  have hmark : dropHexMark [a, b] = [a, b] := by
    rw [dropHexMark, if_neg fun h => h.2.elim hx hX]
  have hdigits : ([a, b].takeWhile fun u => (hexUnit u).isSome) = [a, b] := by
    simp [ha, hb]
  unfold parseInt16
  simp only [hsign, hmark, hdigits]
  simp [ha, hb]

theorem toUint8_natCast (n : Nat) : toUint8 (some (n : Int)) = .ofNat n := by
  refine UInt8.toNat_inj.mp ?_
  have hmod : ((n : Int) % 256).toNat = n % 256 := by omega
  rw [toUint8, hmod, UInt8.toNat_ofNat', UInt8.toNat_ofNat']
  omega

/-! ## Texts made of digits -/

/-- Induction over such a text takes two digits at a time. -/
theorem HexText.cons {rest : List UInt16} (h : HexText (a :: b :: rest)) :
    ∃ x y, hexUnit a = some x ∧ hexUnit b = some y ∧ HexText rest := by
  obtain ⟨hlen, hall⟩ := h
  obtain ⟨x, hx⟩ := Option.isSome_iff_exists.mp (hall a (by simp))
  obtain ⟨y, hy⟩ := Option.isSome_iff_exists.mp (hall b (by simp))
  refine ⟨x, y, hx, hy, ?_, fun u hu => hall u (by simp [hu])⟩
  rw [List.length_cons, List.length_cons] at hlen
  omega

theorem looseBytes_pair (ha : isDot a = true) (hb : isDot b = true) (rest : List UInt16) :
    looseBytes (a :: b :: rest) = toUint8 (parseInt16 [a, b]) :: looseBytes rest := by
  rw [looseBytes, dotPairs, ha, hb]
  rfl

theorem looseBytes_cons (ha : hexUnit a = some x) (hb : hexUnit b = some y) (rest : List UInt16) :
    looseBytes (a :: b :: rest) = .ofNat (x * 16 + y) :: looseBytes rest := by
  rw [looseBytes_pair (hexUnit_spec ha).2.1 (hexUnit_spec hb).2.1, parseInt16_pair ha hb,
    toUint8_natCast]

theorem looseBytes_lowerUnits : ∀ {l : List UInt16}, HexText l →
    looseBytes (l.map lowerUnit) = looseBytes l
  | [], _ => rfl
  | [_], h => absurd h.1 (by simp)
  | a :: b :: rest, h => by
    obtain ⟨x, y, ha, hb, hrest⟩ := h.cons
    have ha' : hexUnit (lowerUnit a) = some x := by rw [hexUnit_lowerUnit (by simp [ha]), ha]
    have hb' : hexUnit (lowerUnit b) = some y := by rw [hexUnit_lowerUnit (by simp [hb]), hb]
    rw [List.map_cons, List.map_cons, looseBytes_cons ha' hb', looseBytes_cons ha hb,
      looseBytes_lowerUnits hrest]

def unitsOfByte (b : UInt8) : List UInt16 := [digitUnit (b.toNat / 16), digitUnit (b.toNat % 16)]

theorem codeUnits_bytesToHex (bytes : List UInt8) :
    codeUnits (bytesToHex bytes) = bytes.flatMap unitsOfByte := by
  have hascii : ∀ v ∈ List.range 16, (Json.hexDigit v).toNat < 0x10000 := by decide
  unfold codeUnits bytesToHex
  rw [String.toList_ofList, List.flatMap_assoc]
  refine congrArg (List.flatMap · bytes) (funext fun b => ?_)
  have hb := b.toNat_lt
  have hhigh := hascii (b.toNat / 16) (List.mem_range.mpr (by omega))
  have hlow := hascii (b.toNat % 16) (List.mem_range.mpr (by omega))
  simp only [hexByte, List.flatMap_cons, List.flatMap_nil, if_pos hhigh, if_pos hlow]
  rfl

theorem hexUnit_unitsOfByte (b : UInt8) : hexUnit (digitUnit (b.toNat / 16)) = some (b.toNat / 16) ∧
    hexUnit (digitUnit (b.toNat % 16)) = some (b.toNat % 16) := by
  have hb := b.toNat_lt
  exact ⟨hexUnit_digitUnit (by omega), hexUnit_digitUnit (by omega)⟩

theorem looseBytes_codeUnits (bytes : List UInt8) :
    looseBytes (codeUnits (bytesToHex bytes)) = bytes := by
  rw [codeUnits_bytesToHex]
  induction bytes with
  | nil => rfl
  | cons b bytes ih =>
    obtain ⟨hhigh, hlow⟩ := hexUnit_unitsOfByte b
    have hbyte : b.toNat / 16 * 16 + b.toNat % 16 = b.toNat := by omega
    rw [List.flatMap_cons]
    show looseBytes (_ :: _ :: bytes.flatMap unitsOfByte) = _
    rw [looseBytes_cons hhigh hlow, ih, hbyte, UInt8.ofNat_toNat]

theorem length_unitsOfBytes (bytes : List UInt8) :
    (bytes.flatMap unitsOfByte).length = 2 * bytes.length := by
  induction bytes with
  | nil => rfl
  | cons b bytes ih =>
    rw [List.flatMap_cons, List.length_append, ih, List.length_cons]
    show 2 + _ = _
    omega

/-- A text of digits is, up to letter case, the text of the bytes it is read as. -/
theorem lowerUnits_of_looseBytes : ∀ {l : List UInt16}, HexText l →
    l.map lowerUnit = (looseBytes l).flatMap unitsOfByte
  | [], _ => rfl
  | [_], h => absurd h.1 (by simp)
  | a :: b :: rest, h => by
    obtain ⟨x, y, ha, hb, hrest⟩ := h.cons
    obtain ⟨hx, -, -, -, -, -, -, hlowera⟩ := hexUnit_spec ha
    obtain ⟨hy, -, -, -, -, -, -, hlowerb⟩ := hexUnit_spec hb
    have hvalue : (UInt8.ofNat (x * 16 + y)).toNat = x * 16 + y := by
      rw [UInt8.toNat_ofNat']
      omega
    have hhigh : (x * 16 + y) / 16 = x := by omega
    have hlow : (x * 16 + y) % 16 = y := by omega
    rw [looseBytes_cons ha hb, List.flatMap_cons, unitsOfByte, hvalue, hhigh, hlow, List.map_cons,
      List.map_cons, hlowera, hlowerb, lowerUnits_of_looseBytes hrest]
    rfl

/-! ## What a text spells -/

/-- How two characters are read as one byte. -/
inductive PairReads (a b : UInt16) : UInt8 → Prop
  | digits {x y : Nat} : hexUnit a = some x → hexUnit b = some y → PairReads a b (.ofNat (x * 16 + y))
  /-- What follows the first digit is ignored, also the `x` of `0x`. -/
  | first {x : Nat} : hexUnit a = some x → hexUnit b = none → PairReads a b (.ofNat x)
  /-- White space and a plus sign are ignored. -/
  | second {y : Nat} : isSpaceUnit a = true ∨ a = 0x2B → hexUnit b = some y →
      PairReads a b (.ofNat y)
  /-- A negative number wraps around. -/
  | negative {y : Nat} : a = 0x2D → hexUnit b = some y → PairReads a b (.ofNat (256 - y))
  /-- Anything else is NaN. -/
  | unread : hexUnit a = none →
      (hexUnit b = none ∨ isSpaceUnit a = false ∧ a ≠ 0x2B ∧ a ≠ 0x2D) → PairReads a b 0

theorem parseInt16_first (ha : hexUnit a = some x) (hb : hexUnit b = none) :
    toUint8 (parseInt16 [a, b]) = .ofNat x := by
  obtain ⟨-, -, hspace, hminus, hplus, -⟩ := hexUnit_spec ha
  have hsign : takeSign ([a, b].dropWhile isSpaceUnit) = (1, [a, b]) := by
    rw [List.dropWhile_cons, hspace, if_neg (by decide), takeSign, if_neg hminus, if_neg hplus]
  unfold parseInt16
  simp only [hsign]
  rw [dropHexMark]
  split
  next hmark =>
    rw [hmark.1] at ha
    cases ha
    rfl
  next => simp [ha, hb, toUint8_natCast]

/-- Behind white space or a sign there is one digit, or nothing to read. -/
theorem parseInt16_second {sign : Int}
    (hsign : takeSign ([a, b].dropWhile isSpaceUnit) = (sign, [b])) :
    parseInt16 [a, b] = (hexUnit b).map fun y : Nat => sign * (y : Int) := by
  unfold parseInt16
  simp only [hsign]
  show (if (([b].takeWhile fun u => (hexUnit u).isSome)).isEmpty then none else _) = _
  cases hb : hexUnit b with
  | none => simp [hb]
  | some y => simp [dropHexMark, hb]

theorem takeWhile_hexUnit {l : List UInt16} (h : ∀ u ∈ l.head?, hexUnit u = none) :
    (l.takeWhile fun u => (hexUnit u).isSome) = [] := by
  cases l with
  | nil => rfl
  | cons u l => simp [h u rfl]

theorem head?_dropHexMark {l : List UInt16} (h : ∀ u ∈ l, hexUnit u = none) :
    ∀ u ∈ (dropHexMark l).head?, hexUnit u = none := by
  intro u hu
  unfold dropHexMark at hu
  split at hu
  next => split at hu <;> exact h u (by simp_all [List.mem_of_mem_head?])
  next => exact h u (List.mem_of_mem_head? hu)

theorem parseInt16_unread (ha : hexUnit a = none)
    (h : hexUnit b = none ∨ isSpaceUnit a = false ∧ a ≠ 0x2B ∧ a ≠ 0x2D) :
    parseInt16 [a, b] = none := by
  have hnone : ∀ u ∈ (dropHexMark (takeSign ([a, b].dropWhile isSpaceUnit)).2).head?,
      hexUnit u = none := by
    rcases h with hb | ⟨hspace, hplus, hminus⟩
    · have hab : ∀ u ∈ [a, b], hexUnit u = none := by simp [ha, hb]
      have hdrop : ∀ u ∈ [a, b].dropWhile isSpaceUnit, hexUnit u = none :=
        fun u hu => hab u ((List.dropWhile_suffix _).subset hu)
      refine head?_dropHexMark fun u hu => hdrop u ?_
      unfold takeSign at hu
      split at hu
      next => cases hu
      next heq => split at hu <;> [skip; split at hu] <;> simp_all
    · have hzero : ¬(a = 0x30 ∧ (b = 0x78 ∨ b = 0x58)) := by
        rintro ⟨rfl, -⟩
        cases ha
      rw [List.dropWhile_cons, hspace, if_neg (by decide), takeSign, if_neg hminus, if_neg hplus,
        dropHexMark, if_neg hzero]
      simp [ha]
  unfold parseInt16
  simp only [takeWhile_hexUnit hnone]
  rfl

/-- Reading is as the cases say. -/
theorem PairReads.eq {byte : UInt8} (h : PairReads a b byte) : toUint8 (parseInt16 [a, b]) = byte := by
  cases h with
  | digits ha hb => rw [parseInt16_pair ha hb, toUint8_natCast]
  | first ha hb => exact parseInt16_first ha hb
  | second ha hb =>
    obtain ⟨-, -, hspace, hminus, hplus, -⟩ := hexUnit_spec hb
    have hsign : takeSign ([a, b].dropWhile isSpaceUnit) = (1, [b]) := by
      rcases ha with ha | rfl
      · rw [List.dropWhile_cons, ha, if_pos rfl, List.dropWhile_cons, hspace, if_neg (by decide),
          takeSign, if_neg hminus, if_neg hplus]
      · rfl
    rw [parseInt16_second hsign, hb, Option.map_some, Int.one_mul, toUint8_natCast]
  | @negative y ha hb =>
    obtain ⟨hlt, -⟩ := hexUnit_spec hb
    subst ha
    have hsign : takeSign ([0x2D, b].dropWhile isSpaceUnit) = (-1, [b]) := rfl
    have hmod : (-1 * (y : Int) % 256).toNat = (256 - y) % 256 := by omega
    rw [parseInt16_second hsign, hb, Option.map_some, toUint8, hmod]
    refine UInt8.toNat_inj.mp ?_
    simp only [UInt8.toNat_ofNat']
    omega
  | unread ha hb => rw [parseInt16_unread ha hb]; rfl

theorem exists_pairReads (a b : UInt16) : ∃ byte, PairReads a b byte := by
  cases ha : hexUnit a with
  | some x =>
    cases hb : hexUnit b with
    | some y => exact ⟨_, .digits ha hb⟩
    | none => exact ⟨_, .first ha hb⟩
  | none =>
    cases hb : hexUnit b with
    | none => exact ⟨_, .unread ha (.inl hb)⟩
    | some y =>
      by_cases hminus : a = 0x2D
      · exact ⟨_, .negative hminus hb⟩
      by_cases hplus : isSpaceUnit a = true ∨ a = 0x2B
      · exact ⟨_, .second hplus hb⟩
      rw [not_or, Bool.not_eq_true] at hplus
      exact ⟨_, .unread ha (.inr ⟨hplus.1, hplus.2, hminus⟩)⟩

/-- How a text is read as bytes: each line two characters at a time from its start. -/
inductive Spells : List UInt16 → List UInt8 → Prop
  | nil : Spells [] []
  /-- An odd last character is passed over. -/
  | last (a : UInt16) : Spells [a] []
  /-- So is one at the end of a line that is not the last. -/
  | lineEnd {a b : UInt16} {rest : List UInt16} {bytes : List UInt8} :
      isDot b = false → Spells (b :: rest) bytes → Spells (a :: b :: rest) bytes
  /-- And so is a line terminator. -/
  | terminator {a : UInt16} {rest : List UInt16} {bytes : List UInt8} :
      isDot a = false → Spells rest bytes → Spells (a :: rest) bytes
  | pair {a b : UInt16} {rest : List UInt16} {byte : UInt8} {bytes : List UInt8} :
      isDot a = true → isDot b = true → PairReads a b byte → Spells rest bytes →
      Spells (a :: b :: rest) (byte :: bytes)

theorem dotPairs_terminator (ha : isDot a = false) (rest : List UInt16) :
    dotPairs (a :: rest) = dotPairs rest := by
  cases rest with
  | nil => rfl
  | cons b rest => rw [dotPairs, ha]; rfl

theorem dotPairs_lineEnd (hb : isDot b = false) (rest : List UInt16) :
    dotPairs (a :: b :: rest) = dotPairs (b :: rest) := by
  rw [dotPairs, hb, Bool.and_false]
  rfl

theorem Spells.eq {l : List UInt16} {bytes : List UInt8} (h : Spells l bytes) :
    looseBytes l = bytes := by
  induction h with
  | nil | last => rfl
  | lineEnd hb _ ih => rw [looseBytes, dotPairs_lineEnd hb]; exact ih
  | terminator ha _ ih => rw [looseBytes, dotPairs_terminator ha]; exact ih
  | pair ha hb hread _ ih =>
    rw [looseBytes_pair ha hb, hread.eq, ih]

theorem spells_looseBytes : ∀ l : List UInt16, Spells l (looseBytes l)
  | [] => .nil
  | [a] => .last a
  | a :: b :: rest => by
    by_cases hb : isDot b = true
    · by_cases ha : isDot a = true
      · obtain ⟨byte, hread⟩ := exists_pairReads a b
        rw [looseBytes_pair ha hb, hread.eq]
        exact .pair ha hb hread (spells_looseBytes rest)
      · rw [Bool.not_eq_true] at ha
        rw [looseBytes, dotPairs_terminator ha]
        exact .terminator ha (spells_looseBytes (b :: rest))
    · rw [Bool.not_eq_true] at hb
      rw [looseBytes, dotPairs_lineEnd hb]
      exact .lineEnd hb (spells_looseBytes (b :: rest))

/-- The two functions read every text as what it spells. -/
theorem looseBytes_eq_iff {l : List UInt16} {bytes : List UInt8} :
    looseBytes l = bytes ↔ Spells l bytes :=
  ⟨fun h => h ▸ spells_looseBytes l, Spells.eq⟩

/-- The pattern fits somewhere: two characters stand beside each other on one line. -/
def HasPair (l : List UInt16) : Prop :=
  ∃ before a b after, l = before ++ a :: b :: after ∧ isDot a = true ∧ isDot b = true

theorem dotPairs_ne_nil_iff : ∀ {l : List UInt16}, dotPairs l ≠ [] ↔ HasPair l
  | [] => by simp [dotPairs, HasPair]
  | [a] => by
    refine iff_of_false (fun h => h rfl) ?_
    rintro ⟨before, c, d, after, heq, -⟩
    have hlength := congrArg List.length heq
    simp only [List.length_append, List.length_cons, List.length_nil] at hlength
    omega
  | a :: b :: rest => by
    rw [dotPairs]
    split
    next hdots =>
      rw [Bool.and_eq_true] at hdots
      exact iff_of_true (List.cons_ne_nil _ _) ⟨[], a, b, rest, rfl, hdots⟩
    next hdots =>
      rw [dotPairs_ne_nil_iff]
      constructor
      · rintro ⟨before, c, d, after, heq, hpair⟩
        exact ⟨a :: before, c, d, after, by rw [heq]; rfl, hpair⟩
      · rintro ⟨before, c, d, after, heq, hc, hd⟩
        cases before with
        | nil =>
          cases heq
          exact absurd (Bool.and_eq_true_iff.mpr ⟨hc, hd⟩) hdots
        | cons e before => exact ⟨before, c, d, after, (List.cons.inj heq).2, hc, hd⟩

end Anchr.Infra
