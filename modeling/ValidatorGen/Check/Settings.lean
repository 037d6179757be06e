import ValidatorGen.Check.Finding
import ValidatorGen.Check.Identifier
import ValidatorGen.Config

/-!
# Checks of the settings
-/

namespace ValidatorGen.Check

/-- The settings have an effect together, and names made from them are well formed. -/
def settingsFindings (c : Config) : List Finding :=
  (if c.usePrefaultEmptyString && !(c.useMinLength && c.useTrimStrings) then
      [.prefaultWithoutTrim] else [])
    ++ (if c.useTrimStrings && !c.useMinLength then [.trimWithoutMinLength] else [])
    ++ (if acceptsName ("X" ++ c.modelSuffix) then [] else [.invalidModelSuffix c.modelSuffix])
    ++ (if acceptsSpecifier c.zodImport then [] else [.invalidZodImport c.zodImport])
    ++ (if c.imports?.any Text.isBlankText then [.emptyImportsPath] else [])

end ValidatorGen.Check
