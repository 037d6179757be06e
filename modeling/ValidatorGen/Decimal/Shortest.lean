import ValidatorGen.Decimal.Binary
import ValidatorGen.Text.CodePoint

/-!
# The shortest decimal of a double

Among the decimals that are nearer to a double than to any other one, `shortest` picks one with
the fewest digits, of these the nearest to the double, and of two equally near the even one.
`write` lays it out: positionally for moderate exponents, else with an exponent of at least two
digits.
-/

namespace ValidatorGen.Decimal

/-- The bounds of what rounds to `m · 2 ^ e`, in quarters of the last place. -/
def lowQuarter (m : Nat) (e : Int) : Nat :=
  if m = Nat.pow 2 52 ∧ -1074 < e then 4 * m - 1 else 4 * m - 2

def highQuarter (m : Nat) : Nat := 4 * m + 2

/-- On the grid of the multiples of `10 ^ x`: the nearer one, of those next to `m · 2 ^ e` that
round to it. -/
def onGrid? (m : Nat) (e x : Int) : Option Nat :=
  let a := Nat.pow 2 (e - 2).toNat * Nat.pow 10 (-x).toNat
  let b := Nat.pow 2 (2 - e).toNat * Nat.pow 10 x.toNat
  let n := 4 * m * a / b
  let low := lowQuarter m e * a
  let high := highQuarter m * a
  let fits (k : Nat) : Bool :=
    if m % 2 = 0 then low ≤ k * b && k * b ≤ high else low < k * b && k * b < high
  if n = 0 then none
  else match fits n, fits (n + 1) with
    | true, true => some (roundDiv (4 * m * a) b)
    | true, false => some n
    | false, true => some (n + 1)
    | false, false => none

/-- Moves the zeros at the end of `n` into the exponent. -/
def stripZeros (n : Nat) (x : Int) : Nat × Int :=
  if h : n ≠ 0 ∧ n % 10 = 0 then stripZeros (n / 10) (x + 1) else (n, x)
termination_by n
decreasing_by omega

/-- Digits and exponent of the shortest decimal of `m · 2 ^ e`, where `m` is positive. -/
def shortest (m : Nat) (e : Int) : Nat × Int :=
  let top : Int := (m.log2 + 1 + e) * 30103 / 100000 + 1
  let found := (List.range 24).findSome? fun (i : Nat) =>
    let x := top - i
    (onGrid? m e x).map (·, x)
  let p := found.getD (m, 0)
  stripZeros p.1 p.2

/-- Where positional writing ends, and how many digits an exponent has at least. -/
structure Layout where
  /-- The least exponent of a leading digit that is written positionally. -/
  least : Int
  /-- The first exponent of a leading digit that is not. -/
  beyond : Int
  exponentWidth : Nat

/-- Numbers are written positionally from `0.0001` up to, but not with, `10 ^ 16`. -/
def plainLayout : Layout where
  least := -4
  beyond := 16
  exponentWidth := 2

/-- A number of zeros. -/
def zeros (n : Nat) : Text := .repeated n '0'

/-- Lays out `n · 10 ^ x`. -/
def Layout.write (l : Layout) (n : Nat) (x : Int) : Text :=
  let ds := Text.digitsIn 10 n
  let lead : Int := ds.length + x - 1
  if l.least ≤ lead ∧ lead < l.beyond then
    if lead < 0 then "0." ++ zeros (-lead - 1).toNat ++ ds
    else if 0 ≤ x then ds ++ zeros x.toNat ++ ".0"
    else ds.take (lead.toNat + 1) ++ "." ++ ds.drop (lead.toNat + 1)
  else
    let es := Text.digitsIn 10 lead.natAbs
    ds.take 1 ++ (if ds.length = 1 then ([] : Text) else "." ++ ds.drop 1)
      ++ "e" ++ (if lead < 0 then "-" else "+") ++ zeros (l.exponentWidth - es.length) ++ es

/-- The text of a double. -/
def text (x : Float) : Text :=
  match Binary.ofFloat x with
  | .nan => "nan"
  | .infinite s => if s then "-inf" else "inf"
  | .finite s m e =>
    let body : Text :=
      if m = 0 then "0.0"
      else let p := shortest m e; plainLayout.write p.1 p.2
    if s then '-' :: body else body

end ValidatorGen.Decimal
