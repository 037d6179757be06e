import ValidatorGen.DataModel
import ValidatorGen.Decimal.Shortest
import ValidatorGen.Text.Quoted
import ValidatorGen.Text.Whole

/-!
# Default values as source literals

A default has a literal, or none, or it is a whole number with too many digits to be written; then
nothing can be generated.
-/

namespace ValidatorGen

/-- A float in a source text.  A whole number below `10 ^ 21` is written without a point; an
infinity and what is no number have no literal. -/
def floatLiteral? (x : Float) : Option Text :=
  let b := Decimal.Binary.ofFloat x
  match b with
  | .finite .. =>
    match b.whole? with
    | some n =>
      if n.natAbs < Nat.pow 10 21 then some (Text.signedDecimal n) else some (Decimal.text x)
    | none => some (Decimal.text x)
  | _ => none

/-- A default value in a source text, if it has a literal form. -/
def Literal.render? : Literal → Option Text
  | bool b => some (if b then "true" else "false")
  | int n => some (Text.signedDecimal n)
  | float x => floatLiteral? x
  | text s => some (Text.quoteDouble s)

/-- A default that cannot be written. -/
def Literal.isLong : Literal → Bool
  | int n => Text.isLong n
  | _ => false

/-- The default of this field cannot be written. -/
def Field.isUnwritable (f : Field) : Bool := f.default?.any Literal.isLong

end ValidatorGen
