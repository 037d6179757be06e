import ValidatorGen.Config
import ValidatorGen.DataModel
import ValidatorGen.Intake.Reading

/-!
# What a run relies on

A run does not read YAML texts by itself, nor does it check settings, data models and paths value by
value: it is given readers for that.  Nor does it decide how deep values may be inside each other.
-/

namespace ValidatorGen.Intake

/-- Why a YAML text has no value. -/
inductive YamlTrouble
  | malformed
  /-- Something in it stands for no value. -/
  | noValue (message : Text)
  | raised (r : Raised)
  deriving Repr

/-- Readers for a single setting. -/
structure ValueReaders where
  text : Document → Reading Text
  /-- A text that is not empty. -/
  name : Document → Reading Text
  truth : Document → Reading Bool
  mode : Document → Reading RelationMode
  nameCase : Document → Reading NameCase

/-- Readers for all that a run is given, and its limits. -/
structure Readers extends ValueReaders where
  /-- The value of a YAML text. -/
  yaml : Text → Except YamlTrouble Document
  /-- The settings in the entries of a mapping. -/
  config : Entries → Reading Config
  dataModel : Document → Reading DataModel
  /-- The paths in the entries of a mapping. -/
  options : Entries → Reading Options
  /-- How many lists and mappings may be inside each other in a JSON text. -/
  jsonRoom : Nat
  /-- How many values may be inside each other in one that is written. -/
  textRoom : Nat

def configRecord : Text := "GeneratorConfig"

def dataModelRecord : Text := "DataModel"

def optionsRecord : Text := "GenerationOptions"

end ValidatorGen.Intake
