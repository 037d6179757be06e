import ValidatorGen.Decimal.Binary
import ValidatorGen.Text.CodePoint

/-!
# A fixed number of places

The exact value of a double, rounded to a number of decimal places; a tie goes to the even
neighbour.
-/

namespace ValidatorGen.Decimal

/-- `m · 2 ^ e` in units of the last of `places` places. -/
def units (places m : Nat) (e : Int) : Nat :=
  roundDiv (m * Nat.pow 2 e.toNat * Nat.pow 10 places) (Nat.pow 2 (-e).toNat)

/-- Writes a number of units with a point before the last `places` digits. -/
def writeUnits (places n : Nat) : Text :=
  let ds := Text.digitsIn 10 n
  let ds := Text.repeated (places + 1 - ds.length) '0' ++ ds
  ds.take (ds.length - places) ++ "." ++ ds.drop (ds.length - places)

/-- The text of a double with `places` decimal places. -/
def fixed (places : Nat) (x : Float) : Text :=
  match Binary.ofFloat x with
  | .nan => "nan"
  | .infinite s => if s then "-inf" else "inf"
  | .finite s m e =>
    let body := writeUnits places (units places m e)
    if s then '-' :: body else body

end ValidatorGen.Decimal
