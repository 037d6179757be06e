import ValidatorGen.Intake.Standard.DataModel
import ValidatorGen.Intake.Standard.Settings
import ValidatorGen.Yaml.Value

/-!
# The standard readers
-/

namespace ValidatorGen.Intake

/-- The class of the faults of a YAML text that lie in its values. -/
def valueClass : Text := "ValueError"

def troubleOf : Yaml.Fault → YamlTrouble
  | .malformed => .malformed
  | f => if f.className = valueClass then .noValue f.message else .raised ⟨f.className, f.message⟩

/-- The readers that the program is run with. -/
def Readers.standard : Readers where
  toValueReaders := .standard
  yaml s := (Yaml.read s).mapError troubleOf
  config := readSettings
  dataModel := readDataModel
  options := readPaths
  jsonRoom := 987
  textRoom := 990

end ValidatorGen.Intake
