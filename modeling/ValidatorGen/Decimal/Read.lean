import ValidatorGen.Decimal.Binary
import ValidatorGen.Text.Whole

/-!
# Reading decimals

A decimal is digits with an optional point among them and an optional exponent.  It is read as the
nearest double.
-/

namespace ValidatorGen.Decimal

/-- The digits at the start of a text, as numbers. -/
def digitsOf (s : Text) : List Nat := s.map fun c => c.toNat - '0'.toNat

/-- The exponent that a text consists of; no text is the exponent zero. -/
def exponent? : Text → Option Int
  | [] => some 0
  | e :: r =>
    if e = 'e' ∨ e = 'E' then
      let (negative, ds) := match r with
        | .char '-' :: ds => (true, ds)
        | .char '+' :: ds => (false, ds)
        | ds => (false, ds)
      if ds.isEmpty || !ds.all CodePoint.isDigit then none
      else
        let n : Int := Text.ofDigits 10 (digitsOf ds)
        some (if negative then -n else n)
    else none

/-- Reads a decimal without a sign. -/
def readUnsigned? (negative : Bool) (s : Text) : Option Float :=
  let whole := s.takeWhile CodePoint.isDigit
  let r := s.dropWhile CodePoint.isDigit
  let (places, r) := match r with
    | .char '.' :: r => (r.takeWhile CodePoint.isDigit, r.dropWhile CodePoint.isDigit)
    | r => ([], r)
  if whole.isEmpty && places.isEmpty then none
  else (exponent? r).map fun x =>
    ofDecimal negative (Text.ofDigits 10 (digitsOf (whole ++ places))) (x - places.length)

/-- Reads a decimal with an optional sign. -/
def read? : Text → Option Float
  | .char '-' :: r => readUnsigned? true r
  | .char '+' :: r => readUnsigned? false r
  | r => readUnsigned? false r

end ValidatorGen.Decimal
