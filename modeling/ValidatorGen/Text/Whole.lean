import ValidatorGen.Text.Blank
import ValidatorGen.Text.Numeral

/-!
# Whole numbers in text

A numeral is an optional sign and decimal digits of any script, single underscores allowed between
digits, white space around it.  Numerals of more than 4300 digits are refused, and longer numbers
are not written.  Large counts are written with a comma after every third digit.
-/

namespace ValidatorGen.Text

/-- The most digits a numeral may have. -/
def maxDigits : Nat := 4300

/-- The digits of a numeral: at least one, with single underscores between them. -/
def digits? : Text → Option (List Nat)
  | [] => none
  | [c] => (digitValue? c).map ([·])
  | c :: .char '_' :: r => do
    let d ← digitValue? c
    let ds ← digits? r
    pure (d :: ds)
  | c :: r => do
    let d ← digitValue? c
    let ds ← digits? r
    pure (d :: ds)

/-- The number with these digits in a base, the leading one first. -/
def ofDigits (base : Nat) (ds : List Nat) : Nat := ds.foldl (fun n d => n * base + d) 0

/-- The natural number that unsigned digits stand for. -/
def natural? (s : Text) : Option Nat := do
  let ds ← digits? s
  if ds.length ≤ maxDigits then some (ofDigits 10 ds) else none

/-- The whole number that a text stands for, if it is a numeral. -/
def whole? (s : Text) : Option Int :=
  match trimSpace s with
  | .char '-' :: r => (natural? r).map fun n => -(n : Int)
  | .char '+' :: r => (natural? r).map Int.ofNat
  | r => (natural? r).map Int.ofNat

/-! ### Writing -/

/-- The decimal digits of a number. -/
def decimal (n : Nat) : Text := digitsIn 10 n

def signedDecimal (n : Int) : Text :=
  if n < 0 then "-" ++ decimal n.natAbs else decimal n.natAbs

/-- A number with more digits than are written. -/
def isLong (n : Int) : Bool := Nat.pow 10 maxDigits ≤ n.natAbs

/-- Commas after every third digit, counted from the right; the digits come last first. -/
def groupThrees : Text → Text
  | a :: b :: c :: d :: r => a :: b :: c :: ',' :: groupThrees (d :: r)
  | r => r

/-- A number with its digits in groups of three. -/
def grouped (n : Int) : Text :=
  (if n < 0 then "-" else "")
    ++ (groupThrees (digitsIn 10 n.natAbs).reverse).reverse

/-- What is said of numbers with too many digits, with a word on the number at hand. -/
def limitMessage (word : Text) : Text :=
  "Exceeds the limit (" ++ decimal maxDigits ++ " digits) for integer string conversion" ++ word
    ++ "; use sys.set_int_max_str_digits() to increase the limit"

/-- What is said of a numeral that is too long. -/
def longNumberMessage (digits : Nat) : Text :=
  limitMessage (": value has " ++ decimal digits ++ " digits")

end ValidatorGen.Text
