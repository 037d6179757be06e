import ValidatorGen.Json.Reader
import ValidatorGen.Text.Case
import ValidatorGen.Yaml.Fault

/-!
# Numbers in scalars

A whole number is written in base 2, 8, 10 or 16, or with colons in base 60; a decimal may also be
in base 60, infinite or no number.  Underscores do not count.
-/

namespace ValidatorGen.Yaml

/-- Digits of any script become those from 0 to 9. -/
def plainDigits (s : Text) : Text :=
  s.map fun c => ((Text.digitValue? c).map fun d => CodePoint.ofNat ('0'.toNat + d)).getD c

/-- The digit that a character stands for in a base. -/
def digitIn? (base : Nat) (c : CodePoint) : Option Nat :=
  (Json.hexDigit? c).filter (· < base)

/-- The text behind `0b`, `0o` or `0x`, if that announces the base. -/
def behindMark (base : Nat) (s : Text) : Text :=
  match s with
  | .char '0' :: m :: r =>
    if base = 2 ∧ (m = 'b' ∨ m = 'B') ∨ base = 8 ∧ (m = 'o' ∨ m = 'O')
      ∨ base = 16 ∧ (m = 'x' ∨ m = 'X') then r else s
  | s => s

/-- Takes a sign: whether it is a minus, and the text behind it. -/
def takeSign : Text → Bool × Text
  | .char '-' :: r => (true, r)
  | .char '+' :: r => (false, r)
  | r => (false, r)

/-- Reads a whole number in a base, which may be announced in front of it; too many decimal digits
are refused whatever follows them. -/
def wholeIn (base : Nat) (s : Text) : Except Fault Int :=
  let (negative, r) := takeSign (plainDigits (Text.trimSpace s))
  let r := behindMark base r
  let digits := (r.takeWhile fun c => (digitIn? base c).isSome).length
  if base = 10 ∧ Text.maxDigits < digits then .error (.longNumber digits)
  else match r.mapM (digitIn? base) with
    | none => .error (.notWhole base s)
    | some [] => .error (.notWhole base s)
    | some ds =>
      let n : Int := Text.ofDigits base ds
      .ok (if negative then -n else n)

def withoutUnderscores (s : Text) : Text := s.filter (!·.is '_')

/-- The sign of a number and the text behind it. -/
def signed (s : Text) : Except Fault (Bool × Text) :=
  if s.isEmpty then .error .emptyNumber else .ok (takeSign s)

/-- Reads a whole number without its sign. -/
def magnitude (s : Text) : Except Fault Int :=
  match s with
  | [] => .error .emptyNumber
  | [.char '0'] => .ok 0
  | .char '0' :: .char 'b' :: r => wholeIn 2 r
  | .char '0' :: .char 'x' :: r => wholeIn 16 r
  | .char '0' :: _ => wholeIn 8 s
  | s =>
    if s.contains ':' then do
      let ds ← (Text.splitOn ':' s).mapM (wholeIn 10)
      pure (ds.foldl (fun n d => n * 60 + d) 0)
    else wholeIn 10 s

/-- The whole number that a scalar stands for. -/
def whole (s : Text) : Except Fault Int := do
  let (negative, r) ← signed (withoutUnderscores s)
  let n ← magnitude r
  pure (if negative then -n else n)

/-! ### Decimals -/

/-- Reads a decimal in base 10. -/
def decimalOf (s : Text) : Except Fault Float :=
  let r := plainDigits (Text.trimSpace s)
  let (negative, word) := takeSign r
  if word = "inf" ∨ word = "infinity" then .ok (if negative then -1.0 / 0.0 else 1.0 / 0.0)
  else if word = "nan" then .ok (0.0 / 0.0)
  else match Decimal.read? r with
    | some x => .ok x
    | none => .error (.notDecimal s)

/-- The least whole number that no double is nearest to. -/
def beyondDoubles : Nat := Nat.pow 2 1024 - Nat.pow 2 970

/-- Adds up digits in base 60, the last one first. -/
def sumSixtieths : Nat → Float → List Float → Float
  | _, sum, [] => sum
  | k, sum, x :: xs => sumSixtieths (k + 1) (sum + x * Float.ofNat (Nat.pow 60 k)) xs

/-- The form in which decimals are read. -/
def plainForm (s : Text) : Text := Text.lower (withoutUnderscores s)

/-- The scalar is `.nan`, perhaps with a sign. -/
def isMarkedNaN (s : Text) : Bool := (takeSign (plainForm s)).2 = ".nan"

/-- The decimal that a scalar stands for. -/
def decimal (s : Text) : Except Fault Float := do
  let (negative, r) ← signed (plainForm s)
  let x ←
    if r = ".inf" then pure (1.0 / 0.0)
    else if r = ".nan" then pure (0.0 / 0.0)
    else if r.contains ':' then do
      let ds ← (Text.splitOn ':' r).mapM decimalOf
      if beyondDoubles ≤ Nat.pow 60 (ds.length - 1) then throw .largeNumber
      pure (sumSixtieths 0 0 ds.reverse)
    else decimalOf r
  pure (if negative then -x else x)

end ValidatorGen.Yaml
