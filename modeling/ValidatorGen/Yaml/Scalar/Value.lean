import ValidatorGen.Text.Base64
import ValidatorGen.Yaml.Number
import ValidatorGen.Yaml.Tag

/-!
# The value of a scalar

A scalar becomes a document value as its tag says.
-/

namespace ValidatorGen.Yaml

def trueWords : List Text := ["yes", "true", "on"]

def falseWords : List Text := ["no", "false", "off"]

/-- The Boolean that a scalar stands for, in any case. -/
def boolean (s : Text) : Except Fault Bool :=
  let word := Text.lower s
  if trueWords.contains word then .ok true
  else if falseWords.contains word then .ok false
  else .error (.notBoolean word)

/-- The bytes that a scalar stands for. -/
def binary (s : Text) : Except Fault (List UInt8) :=
  if s.all (·.toNat < 0x80) then
    match Text.Base64.decode? s with
    | some bs => .ok bs
    | none => .error .malformed
  else .error .malformed

/-- The day or moment that a scalar stands for. -/
def timestamp (s : Text) : Except Fault Document :=
  match Stamp.ofText? (Tag.withoutLineFeed s) with
  | some stamp => stamp.value
  | none => .error .notMoment

/-- The decimal that a scalar of this number stands for.  What is no number is the same as itself
alone; only all scalars `.nan` are one. -/
def decimalValue (number : Nat) (s : Text) : Except Fault Document :=
  (decimal s).map fun x => if x.isNaN && !isMarkedNaN s then .nan number else .float x

/-- The value of a scalar with this tag; its number sets it apart from all others. -/
def scalarValue (number : Nat) (t : Tag) (s : Text) : Except Fault Document :=
  match t with
  | .null => .ok .null
  | .bool => (boolean s).map .bool
  | .int => (whole s).map .int
  | .float => decimalValue number s
  | .binary => (binary s).map .bytes
  | .timestamp => timestamp s
  | .text => .ok (.text s)
  | _ => .error .malformed

end ValidatorGen.Yaml
