import Anchr.Infra.Text

/-!
# Decimal text of numbers

`parseFloat` and `Number.prototype.toFixed`. Both are exact up to the rounding of a value to a
double, which the engine does: `round` stands for it.
-/

namespace Anchr.Infra

/-! ## `parseFloat` -/

/-- The exponent part at the start of the text; `0` if there is none. -/
def exponentOf : List Char → Int
  | e :: rest =>
    if e = 'e' ∨ e = 'E' then
      match rest with
      | '-' :: digits => -(digitsValue (digits.takeWhile Char.isDigit) : Int)
      | '+' :: digits => digitsValue (digits.takeWhile Char.isDigit)
      | digits => digitsValue (digits.takeWhile Char.isDigit)
    else 0
  | [] => 0

/-- The longest number at the start of the text, without a sign. -/
def parseUnsigned (round : ℚ → JsNumber) (l : List Char) : JsNumber :=
  if "Infinity".toList.isPrefixOf l then .posInf
  else
    let whole := l.takeWhile Char.isDigit
    let afterWhole := l.dropWhile Char.isDigit
    let (fraction, rest) :=
      match afterWhole with
      | '.' :: r => (r.takeWhile Char.isDigit, r.dropWhile Char.isDigit)
      | r => ([], r)
    if whole.isEmpty && fraction.isEmpty then .nan
    else round (digitsValue (whole ++ fraction) * 10 ^ (exponentOf rest - fraction.length))

/-- `parseFloat(s)`, on the characters. -/
def parseFloat (round : ℚ → JsNumber) (l : List Char) : JsNumber :=
  match l.dropWhile isJsSpace with
  | '-' :: rest => (parseUnsigned round rest).neg
  | '+' :: rest => parseUnsigned round rest
  | rest => parseUnsigned round rest

example : parseFloat .fin " -35.25e1N".toList = .fin (-705 / 2) := by decide +kernel
example : parseFloat .fin "N35".toList = .nan := by decide

/-! ## `toFixed` -/

/-- A decimal fraction with `digits` places, for `n` units of the last place. -/
def placed (digits n : Nat) : List Char :=
  let text := natChars n
  let padded := List.replicate (digits + 1 - text.length) '0' ++ text
  padded.take (padded.length - digits) ++
    (if digits = 0 then [] else '.' :: padded.drop (padded.length - digits))

/-- `n.toFixed(digits)`. Of two nearest fractions the larger is taken, before the sign. -/
def toFixed (T : NumberText) (digits : Nat) : JsNumber → String
  | .fin q =>
    if 10 ^ 21 ≤ |q| then T.toString (.fin q)
    else
      let text := placed digits ⌊|q| * 10 ^ digits + 1 / 2⌋.toNat
      String.ofList (if q < 0 then '-' :: text else text)
  | n => T.toString n

example : toFixed .safeIntegers 1 (.fin (-9 / 4)) = "-2.3" := by decide +kernel
example : toFixed .safeIntegers 4 (.fin (1 / 100)) = "0.0100" := by decide +kernel

end Anchr.Infra
