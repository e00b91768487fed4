import Mathlib.Data.Rat.Floor
import Mathlib.Data.List.TakeWhile
import Mathlib.Data.Nat.Digits.Lemmas

/-!
# JavaScript numbers

The operations do not round; where one may leave the doubles, `rounded` follows it. The conversions
between a finite value and its decimal text are the engine's (`NumberText`), and only what the
language specification promises about them is assumed.
-/

namespace Anchr.Infra

/-- Finite values are kept as exact rationals: every double is one. `-0` is not told apart from `0`:
no comparison (`===`, `<`) and no truth test can see it. -/
inductive JsNumber where
  | nan
  | posInf
  | negInf
  | fin (q : ℚ)
  deriving DecidableEq

namespace JsNumber

/-- The number literal `n`. -/
def ofInt (n : Int) : JsNumber := .fin n

/-- Boolean coercion: `0` and NaN are falsy. -/
def truthy : JsNumber → Bool
  | .nan => false
  | .fin q => decide (q ≠ 0)
  | _ => true

def isFinite : JsNumber → Bool
  | .fin _ => true
  | _ => false

def isInteger : JsNumber → Bool
  | .fin q => decide (q.den = 1)
  | _ => false

/-- Anything compared with NaN is `false`. -/
def lt : JsNumber → JsNumber → Bool
  | .nan, _ | _, .nan => false
  | .posInf, _ => false
  | _, .negInf => false
  | .negInf, _ => true
  | _, .posInf => true
  | .fin a, .fin b => decide (a < b)

/-- `a === b`. NaN is not equal to itself. -/
def strictEq : JsNumber → JsNumber → Bool
  | .nan, _ => false
  | a, b => decide (a = b)

def le (a b : JsNumber) : Bool := a.lt b || a.strictEq b

def neg : JsNumber → JsNumber
  | .nan => .nan
  | .posInf => .negInf
  | .negInf => .posInf
  | .fin q => .fin (-q)

def add : JsNumber → JsNumber → JsNumber
  | .nan, _ | _, .nan => .nan
  | .posInf, .negInf | .negInf, .posInf => .nan
  | .posInf, _ | _, .posInf => .posInf
  | .negInf, _ | _, .negInf => .negInf
  | .fin a, .fin b => .fin (a + b)

def sub (a b : JsNumber) : JsNumber := a.add b.neg

/-- `a * k` for a positive literal `k`. -/
def scale (k : ℚ) : JsNumber → JsNumber
  | .fin q => .fin (q * k)
  | a => a

/-- The result of an operation, rounded to a double or to an infinity as `round` says. -/
def rounded (round : ℚ → JsNumber) : JsNumber → JsNumber
  | .fin q => round q
  | a => a

def floor : JsNumber → JsNumber
  | .fin q => .fin (Int.floor q)
  | a => a

attribute [local simp] lt strictEq add

@[simp] theorem isInteger_ofInt (n : Int) : (ofInt n).isInteger = true := by
  simp [isInteger, ofInt]

@[simp] theorem lt_ofInt (m n : Int) : (ofInt m).lt (ofInt n) = decide (m < n) := by
  simp [lt, ofInt]

@[simp] theorem le_ofInt (m n : Int) : (ofInt m).le (ofInt n) = decide (m ≤ n) := by
  simp [le, lt, strictEq, ofInt, le_iff_lt_or_eq, Bool.decide_or]

@[simp] theorem sub_ofInt (m n : Int) : (ofInt m).sub (ofInt n) = ofInt (m - n) := by
  simp [sub, neg, add, ofInt, sub_eq_add_neg]

variable {b a c : JsNumber} {q : ℚ}

theorem le_of_not_lt (ha : a.isFinite = true) (hb : b.isFinite = true) (h : b.lt a = false) :
    a.le b = true := by
  cases a with
  | fin p =>
    cases b with
    | fin q =>
      have hle : p ≤ q := by simpa [lt] using h
      simpa [le, lt, strictEq] using hle.lt_or_eq
    | _ => cases hb
  | _ => cases ha

/-- `a < b` and `b <= a` are opposites, unless one of them is NaN. -/
theorem lt_eq_not_le_iff : a.lt b = !b.le a ↔ a ≠ .nan ∧ b ≠ .nan := by
  cases a with
  | nan => cases b <;> simp [lt, le, strictEq]
  | posInf => cases b <;> simp [lt, le, strictEq]
  | negInf => cases b <;> simp [lt, le, strictEq]
  | fin p =>
    cases b with
    | fin q =>
      have hle : (fin q).le (fin p) = decide (q ≤ p) := by
        simp [le, lt, strictEq, le_iff_lt_or_eq, Bool.decide_or]
      rw [hle, ← decide_not]
      simp [lt]
    | _ => simp [lt, le, strictEq]

theorem exists_fin_of_nonneg_of_lt (hle : (ofInt 0).le a = true) (hlt : a.lt b = true) :
    ∃ q : ℚ, 0 ≤ q ∧ a = .fin q := by
  cases a with
  | fin q =>
    refine ⟨q, ?_, rfl⟩
    simpa [le, lt, strictEq, ofInt, le_iff_lt_or_eq] using hle
  | nan => cases hle
  | negInf => cases hle
  | posInf => cases b <;> cases hlt

theorem lt_of_lt_of_le_ofInt {n : Int} (hlt : (fin q).lt b = true) (hle : b.le (ofInt n) = true) :
    q < n := by
  cases b with
  | fin r =>
    have hqr : q < r := by simpa [lt] using hlt
    have hrn : r ≤ n := by simpa [le, lt, strictEq, ofInt, le_iff_lt_or_eq] using hle
    exact hqr.trans_le hrn
  | nan | negInf => cases hlt
  | posInf => cases hle

theorem sub_eq_fin (h : a.sub b = .fin q) :
    ∃ x y : ℚ, a = .fin x ∧ b = .fin y ∧ q = x - y := by
  cases a with
  | fin x =>
    cases b with
    | fin y =>
      refine ⟨x, y, rfl, rfl, ?_⟩
      simpa [sub, neg, add, sub_eq_add_neg] using h.symm
    | _ => cases h
  | nan | posInf | negInf => cases b <;> cases h

theorem le_trans (hab : a.le b = true) (hbc : b.le c = true) :
    a.le c = true := by
  cases a <;> cases b <;> cases c <;> simp [le, lt, strictEq, ← le_iff_lt_or_eq] at hab hbc ⊢
  exact hab.trans hbc

theorem le_self (h : a.le b = true) : b.le b = true := by
  cases a <;> cases b <;> simp [le, lt, strictEq] at h ⊢

/-- What is in a window that has moved on was in it before. -/
theorem sub_le_of_later {r t now : JsNumber} (htc : t.le c = true) (hle : c.le now = true)
    (h : (now.sub r).le t = true) : (c.sub r).le t = true := by
  cases r <;> cases t <;> cases c <;> cases now <;>
    simp [sub, add, neg, le, lt, strictEq, ← le_iff_lt_or_eq] at htc hle h ⊢
  next r t c now =>
    have hwindow : c + -r ≤ t := by rcases h with h | h <;> linarith
    rcases hwindow.lt_or_eq with hlt | heq
    · exact .inl (by linarith)
    · exact .inr heq

@[simp] theorem strictEq_fin (p q : ℚ) : (fin p).strictEq (fin q) = decide (p = q) := by
  simp [strictEq]

end JsNumber

/-! ## Decimal text -/

/-- The rest of an exponent part: at least one digit, nothing else. -/
def isDigits (l : List Char) : Bool := !l.isEmpty && l.all Char.isDigit

def isExponent : List Char → Bool
  | [] => true
  | c :: r =>
    (c == 'e' || c == 'E') &&
      (match r with
        | [] => false
        | d :: t => if d == '+' || d == '-' then isDigits t else isDigits (d :: t))

def isFraction : List Char → Bool
  | [] => true
  | c :: r =>
    if c == '.' then
      match r with
      | [] => false
      | d :: t => d.isDigit && isExponent (t.dropWhile Char.isDigit)
    else isExponent (c :: r)

def isUnsigned : List Char → Bool
  | [] => false
  | c :: r =>
    if c == '0' then isFraction r else c.isDigit && isFraction (r.dropWhile Char.isDigit)

/-- The number grammar of JSON: no leading zero, no bare point, no leading plus. -/
def isNumberToken : List Char → Bool
  | [] => false
  | c :: r => if c == '-' then isUnsigned r else isUnsigned (c :: r)

/-- A character that can occur in a number token. -/
def isNumberChar (c : Char) : Bool :=
  c.isDigit || c == '-' || c == '+' || c == '.' || c == 'e' || c == 'E'

/--
The engine's conversions between finite doubles and decimal text.

`render` is `Number::toString` on finite values and `read` the value of a JSON number token
(which may overflow to an infinity). Printing a double and reading it back gives the double.
-/
structure NumberText where
  double : ℚ → Prop
  render : ℚ → List Char
  read : List Char → JsNumber
  render_token : ∀ q, double q → isNumberToken (render q) = true
  render_chars : ∀ q, double q → (render q).all isNumberChar = true
  read_render : ∀ q, double q → read (render q) = .fin q

def NumberText.toString (T : NumberText) : JsNumber → String
  | .nan => "NaN"
  | .posInf => "Infinity"
  | .negInf => "-Infinity"
  | .fin q => String.ofList (T.render q)

/-! ## Integers

The part of `NumberText` that safe integers exercise, written out. Below `10^21` the language
prints an integer in plain decimal, so on these values this is the engine's own text.
-/

/-- Decimal digits of `n`, most significant first. -/
def natChars (n : Nat) : List Char :=
  if n = 0 then ['0'] else (Nat.digits 10 n).reverse.map fun d => Char.ofNat (0x30 + d)

def intChars (n : Int) : List Char :=
  if n < 0 then '-' :: natChars n.natAbs else natChars n.natAbs

/-- Value of a run of digits. -/
def digitsValue (l : List Char) : Nat := l.foldl (fun acc c => acc * 10 + (c.toNat - 0x30)) 0

def readInt : List Char → JsNumber
  | [] => .nan
  | c :: r =>
    if c == '-' then
      if isDigits r then .ofInt (-(digitsValue r : Int)) else .nan
    else if isDigits (c :: r) then .ofInt (digitsValue (c :: r)) else .nan

theorem digitChar_spec : ∀ d : Nat, d < 10 →
    (Char.ofNat (0x30 + d)).isDigit = true ∧ (Char.ofNat (0x30 + d)).toNat - 0x30 = d ∧
      (Char.ofNat (0x30 + d) = '0' ↔ d = 0)
  | 0, _ | 1, _ | 2, _ | 3, _ | 4, _ | 5, _ | 6, _ | 7, _ | 8, _ | 9, _ => by decide
  | _ + 10, h => absurd h (by omega)

theorem natChars_digits (n : Nat) : ∀ c ∈ natChars n, c.isDigit = true := by
  intro c hc
  unfold natChars at hc
  split at hc
  · simp only [List.mem_cons, List.not_mem_nil, or_false] at hc
    subst hc; decide
  · obtain ⟨d, hd, hdc⟩ := List.mem_map.mp hc
    subst hdc
    exact (digitChar_spec d (Nat.digits_lt_base (by decide) (List.mem_reverse.mp hd))).1

theorem foldr_digits : ∀ (l : List Nat), (∀ d ∈ l, d < 10) →
    (l.map fun d => Char.ofNat (0x30 + d)).foldr (fun c acc => acc * 10 + (c.toNat - 0x30)) 0
      = Nat.ofDigits 10 l
  | [], _ => rfl
  | d :: l, h => by
    rw [List.map_cons, List.foldr_cons,
      foldr_digits l (fun x hx => h x (List.mem_cons_of_mem _ hx)),
      (digitChar_spec d (h d List.mem_cons_self)).2.1, Nat.ofDigits_cons]
    ring

theorem digitsValue_natChars (n : Nat) : digitsValue (natChars n) = n := by
  unfold natChars
  split
  · next h => subst h; decide
  · rw [digitsValue, List.map_reverse, List.foldl_reverse,
      foldr_digits _ (fun d hd => Nat.digits_lt_base (by decide) hd), Nat.ofDigits_digits]

/-- Decimal text starts with a digit, and with `0` only when it is `0` itself. -/
theorem natChars_cons (n : Nat) : ∃ c r, natChars n = c :: r ∧ (c = '0' → r = []) := by
  unfold natChars
  split
  · exact ⟨'0', [], rfl, fun _ => rfl⟩
  · next hn =>
    have hne : Nat.digits 10 n ≠ [] := Nat.digits_ne_nil_iff_ne_zero.mpr hn
    have hlast : (Nat.digits 10 n).getLast hne ≠ 0 := Nat.getLast_digit_ne_zero 10 hn
    have hlt : (Nat.digits 10 n).getLast hne < 10 :=
      Nat.digits_lt_base (by decide) (List.getLast_mem hne)
    refine ⟨Char.ofNat (0x30 + (Nat.digits 10 n).getLast hne),
      (Nat.digits 10 n).dropLast.reverse.map fun d => Char.ofNat (0x30 + d), ?_, ?_⟩
    · conv_lhs => rw [← List.dropLast_append_getLast hne]
      rw [List.reverse_append, List.reverse_singleton, List.singleton_append, List.map_cons]
    · intro h
      exact absurd ((digitChar_spec _ hlt).2.2.mp h) hlast

theorem isDigits_natChars (n : Nat) : isDigits (natChars n) = true := by
  obtain ⟨c, r, h, -⟩ := natChars_cons n
  have hall : (natChars n).all Char.isDigit = true := List.all_eq_true.mpr (natChars_digits n)
  unfold isDigits
  rw [hall, h]
  rfl

theorem isUnsigned_natChars (n : Nat) : isUnsigned (natChars n) = true := by
  obtain ⟨c, r, h, h0⟩ := natChars_cons n
  have hd := natChars_digits n
  rw [h] at hd ⊢
  unfold isUnsigned
  by_cases hc : c = '0'
  · rw [h0 hc]; simp [hc, isFraction]
  · have hr : r.dropWhile Char.isDigit = [] :=
      List.dropWhile_eq_nil_iff.mpr fun x hx => hd x (List.mem_cons_of_mem _ hx)
    simp [hc, hd c List.mem_cons_self, hr, isFraction]

theorem ne_minus_of_isDigit {c : Char} (h : c.isDigit = true) : ¬(c == '-') = true := by
  intro hc
  rw [beq_iff_eq.mp hc] at h
  exact absurd h (by decide)

theorem isNumberToken_intChars (n : Int) : isNumberToken (intChars n) = true := by
  unfold intChars
  split
  · exact isUnsigned_natChars n.natAbs
  · obtain ⟨c, r, h, -⟩ := natChars_cons n.natAbs
    have hc : c.isDigit = true := natChars_digits n.natAbs c (by rw [h]; exact List.mem_cons_self)
    have hu := isUnsigned_natChars n.natAbs
    rw [h] at hu ⊢
    rw [isNumberToken, if_neg (ne_minus_of_isDigit hc)]
    exact hu

theorem isNumberChar_intChars (n : Int) : (intChars n).all isNumberChar = true := by
  have hnat : (natChars n.natAbs).all isNumberChar = true := by
    refine List.all_eq_true.mpr fun c hc => ?_
    simp [isNumberChar, natChars_digits _ c hc]
  unfold intChars
  split
  · rw [List.all_cons, hnat]; rfl
  · exact hnat

theorem readInt_intChars (n : Int) : readInt (intChars n) = .ofInt n := by
  unfold intChars
  split
  · next hn =>
    rw [readInt, if_pos (by rfl), if_pos (isDigits_natChars _), digitsValue_natChars]
    congr 1
    omega
  · next hn =>
    obtain ⟨c, r, h, -⟩ := natChars_cons n.natAbs
    have hc : c.isDigit = true := natChars_digits n.natAbs c (by rw [h]; exact List.mem_cons_self)
    have hd := isDigits_natChars n.natAbs
    have hv := digitsValue_natChars n.natAbs
    rw [h] at hd hv ⊢
    rw [readInt, if_neg (ne_minus_of_isDigit hc), if_pos hd, hv]
    congr 1
    omega

/-- The conversions on safe integers. -/
def NumberText.safeIntegers : NumberText where
  double q := q.den = 1 ∧ q.num.natAbs < 2 ^ 53
  render q := intChars q.num
  read := readInt
  render_token q _ := isNumberToken_intChars q.num
  render_chars q _ := isNumberChar_intChars q.num
  read_render q h := by
    rw [readInt_intChars, JsNumber.ofInt]
    congr 1
    exact Rat.den_eq_one_iff q |>.mp h.1

theorem safeIntegers_zero : NumberText.safeIntegers.double 0 := ⟨rfl, by decide⟩

end Anchr.Infra
