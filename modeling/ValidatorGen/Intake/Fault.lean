import ValidatorGen.Text.Display
import ValidatorGen.Text.Whole

/-!
# Faults of an input

A document may not have the form of what it is read as.  All faults are collected, each with the
way to the place where it is.  What is raised on the way and is no fault of a value ends the reading
at once.
-/

namespace ValidatorGen.Intake

/-- A step on the way into a document. -/
inductive Step
  | key (name : Text)
  | index (n : Int)
  deriving DecidableEq, Repr

/-- What is wrong at a place. -/
inductive Complaint
  | missing
  | notText
  | notDecodable
  | emptyText
  | noItems
  | notList
  | notRecord (name : Text)
  | notBool
  | notBoolWord
  | notInt
  | notIntWord
  | notFloat
  | notFloatWord
  | notOneOf (words : Text)
  | notLiteral (word : Text)
  /-- A setting that is neither `true` nor `false`; the argument is the setting as it is shown. -/
  | notTruth (given : Text)
  | extra
  /-- The key of an entry is no text. -/
  | notKey
  deriving DecidableEq, Repr

namespace Complaint

/-- The code of a complaint. -/
def code : Complaint → Text
  | missing => "missing"
  | notText => "string_type"
  | notDecodable => "string_unicode"
  | emptyText => "string_too_short"
  | noItems => "too_short"
  | notList => "list_type"
  | notRecord _ => "model_type"
  | notBool => "bool_type"
  | notBoolWord => "bool_parsing"
  | notInt => "int_type"
  | notIntWord => "int_parsing"
  | notFloat => "float_type"
  | notFloatWord => "float_parsing"
  | notOneOf _ => "enum"
  | notLiteral _ => "literal_error"
  | notTruth _ => "value_error"
  | extra => "extra_forbidden"
  | notKey => "invalid_key"

def message : Complaint → Text
  | missing => "Field required"
  | notText => "Input should be a valid string"
  | notDecodable => "Input should be a valid string, unable to parse raw data as a unicode string"
  | emptyText => "String should have at least 1 character"
  | noItems => "List should have at least 1 item after validation, not 0"
  | notList => "Input should be a valid list"
  | notRecord n => "Input should be a valid dictionary or instance of " ++ n
  | notBool => "Input should be a valid boolean"
  | notBoolWord => "Input should be a valid boolean, unable to interpret input"
  | notInt => "Input should be a valid integer"
  | notIntWord => "Input should be a valid integer, unable to parse string as an integer"
  | notFloat => "Input should be a valid number"
  | notFloatWord => "Input should be a valid number, unable to parse string as a number"
  | notOneOf words => "Input should be " ++ words
  | notLiteral word => "Input should be '" ++ word ++ "'"
  | notTruth given => "Value error, expected 'true' or 'false', got " ++ given
  | extra => "Extra inputs are not permitted"
  | notKey => "Keys should be strings"

end Complaint

/-- A complaint and the way to its place. -/
structure Fault where
  way : List Step
  complaint : Complaint
  deriving DecidableEq, Repr

def Fault.at (s : Step) (f : Fault) : Fault := ⟨s :: f.way, f.complaint⟩

/-- An error that is no fault of a value: its class and what it says. -/
structure Raised where
  className : Text
  message : Text
  deriving DecidableEq, Repr

/-- Why a document is refused. -/
inductive Refusal
  | faults (fs : List Fault)
  | raised (r : Raised)
  deriving DecidableEq, Repr

/-- The heading over the faults of a record. -/
def heading (record : Text) (fs : List Fault) : Text :=
  Text.decimal fs.length ++ " validation error" ++ (if fs.length = 1 then "" else "s") ++ " for "
    ++ record

end ValidatorGen.Intake
