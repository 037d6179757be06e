import ValidatorGen.Decimal.Read
import ValidatorGen.Document.Value
import ValidatorGen.Text.Blank

/-!
# Words

A text may be a word for a truth value or a number.  White space around it does not count, and
single underscores between other characters do not.  A whole number may have zeros in front and,
behind a point, zeros at the end.
-/

namespace ValidatorGen.Intake

def trueWords : List Text := ["1", "t", "y", "on", "yes", "true"]

def falseWords : List Text := ["0", "f", "n", "no", "off", "false"]

/-- The truth value that a word stands for, in ASCII letters of either case. -/
def boolWord? (s : Text) : Option Bool :=
  let w := s.map CodePoint.toLower
  if trueWords.contains w then some true
  else if falseWords.contains w then some false
  else none

/-- The text without its underscores, none of which may be at an end or next to another one. -/
def withoutUnderscores? (s : Text) : Option Text :=
  if s.head? = some (.char '_') ∨ s.getLast? = some (.char '_') then none
  else if (s.zip s.tail).contains (.char '_', .char '_') then none
  else some (s.filter (!·.is '_'))

/-! ### Whole numbers -/

def isFiller (c : CodePoint) : Bool := c = '0' || c = '_'

/-- Drops the zeros and underscores at the start of a text that starts with a digit.  What is left
has a character in front of its point, and one character at least. -/
def dropZeros (s : Text) : Text :=
  let filler := s.takeWhile isFiller
  match s.drop filler.length with
  | .char '.' :: r => filler.drop (filler.length - 1) ++ "." ++ r
  | [] => filler.drop (filler.length - 1)
  | r => r

/-- Drops a point with zeros and nothing else behind it. -/
def dropPlaces (s : Text) : Text :=
  match s.reverse with
  | .char '0' :: r =>
    match r.dropWhile (·.is '0') with
    | .char '.' :: r => r.reverse
    | _ => s
  | _ => s

/-- The whole number without zeros in front that a text is, in ASCII digits. -/
def plainWhole? (s : Text) : Option Int :=
  let (negative, ds) := match s with
    | .char '-' :: r => (true, r)
    | r => (false, r)
  if ds.isEmpty || !ds.all CodePoint.isDigit || ds.length > 1 && ds.head? = some (.char '0')
      || Text.maxDigits < ds.length then none
  else
    let n : Int := Text.ofDigits 10 (Decimal.digitsOf ds)
    some (if negative then -n else n)

/-- The whole number that a word is. -/
def wholeWord? (s : Text) : Option Int := do
  let (sign, r) : Text × Text := match Text.trimSpace s with
    | .char '-' :: r => ("-", r)
    | .char '+' :: r => ("", r)
    | r => ("", r)
  guard (r.head?.any CodePoint.isDigit)
  plainWhole? (← withoutUnderscores? (sign ++ dropPlaces (dropZeros r)))

/-! ### Decimals -/

/-- The decimal that a text is, or an infinity, or no number. -/
def plainDecimal? (s : Text) : Option Float :=
  let (negative, r) := match s with
    | .char '-' :: r => (true, r)
    | .char '+' :: r => (false, r)
    | r => (false, r)
  let w := r.map CodePoint.toLower
  if w = "inf" ∨ w = "infinity" then some (if negative then -1.0 / 0.0 else 1.0 / 0.0)
  else if w = "nan" then some (0.0 / 0.0)
  else Decimal.read? s

/-- The decimal that a word is. -/
def decimalWord? (s : Text) : Option Float :=
  (plainDecimal? (Text.trimSpace s)).or ((withoutUnderscores? s).bind plainDecimal?)

end ValidatorGen.Intake
