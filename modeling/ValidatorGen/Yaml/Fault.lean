import ValidatorGen.Document.Calendar
import ValidatorGen.Text.Display

/-!
# What is wrong with a YAML text

A text may be no YAML at all; then it is only said that it is malformed.  Or a scalar may not fit
its tag; then the fault says what does not fit.  Or nodes may be too deep inside each other.
-/

namespace ValidatorGen.Yaml

inductive Fault
  | malformed
  /-- An escape for a character of this number, which does not exist. -/
  | noCharacter (number : Nat)
  | notWhole (base : Nat) (text : Text)
  | longNumber (digits : Nat)
  /-- A place value that no double is near to. -/
  | largeNumber
  | emptyNumber
  | notDecimal (text : Text)
  | notBoolean (text : Text)
  | notMoment
  /-- A day or a time of the day that does not exist. -/
  | calendar (message : Text)
  /-- An offset from universal time of a day or more, in seconds. -/
  | offset (seconds : Int)
  /-- A mapping has the tag of a timestamp. -/
  | momentMapping
  /-- Nodes are too deep inside each other. -/
  | tooDeep
  /-- A mapping stands for the scalar that it stands for itself. -/
  | endless
  deriving DecidableEq, Repr

namespace Fault

/-- The largest number that an escape can hold at all. -/
def maxEscape : Nat := Nat.pow 2 31 - 1

/-- The class of errors that a fault belongs to. -/
def className : Fault → Text
  | noCharacter n => if maxEscape < n then "OverflowError" else "ValueError"
  | largeNumber => "OverflowError"
  | emptyNumber => "IndexError"
  | notBoolean _ => "KeyError"
  | notMoment => "AttributeError"
  | momentMapping => "TypeError"
  | tooDeep => "RecursionError"
  | endless => "RecursionError"
  | _ => "ValueError"

/-- How many characters of a text that is no number are shown. -/
def shownLength : Nat := 200

/-- What is said of a fault. -/
def message : Fault → Text
  | malformed => "Invalid YAML"
  | noCharacter n =>
    if maxEscape < n then "Python int too large to convert to C int"
    else "chr() arg not in range(0x110000)"
  | notWhole base s =>
    "invalid literal for int() with base " ++ Text.decimal base ++ ": "
      ++ (Text.display s).take shownLength
  | longNumber n => Text.longNumberMessage n
  | largeNumber => "int too large to convert to float"
  | emptyNumber => "string index out of range"
  | notDecimal s => "could not convert string to float: " ++ Text.display s
  | notBoolean s => Text.display s
  | notMoment => "'NoneType' object has no attribute 'groupdict'"
  | calendar m => m
  | offset s =>
    "offset must be a timedelta strictly between -timedelta(hours=24) and timedelta(hours=24), "
      ++ "not " ++ Moment.spanText s ++ "."
  | momentMapping => "expected string or bytes-like object, got 'list'"
  | tooDeep => "maximum recursion depth exceeded while calling a Python object"
  | endless => "maximum recursion depth exceeded"

end Fault

end ValidatorGen.Yaml
