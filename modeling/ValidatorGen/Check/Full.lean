import ValidatorGen.Check.Models
import ValidatorGen.Check.Settings
import ValidatorGen.Journal

/-!
# The whole check

Before a run, the data model and the settings are checked, and that no two of the schemas to be
generated take the same name.
-/

namespace ValidatorGen.Check

/-! ### Identifiers of different owners -/

/-- The enumerations have a module of their own. -/
def enumsStandAlone (d : DataModel) (c : Config) : Bool :=
  c.useStandaloneEnums && !d.enums.isEmpty

/-- The schema names that a run declares, with what they stand for. -/
def identifiers (d : DataModel) (c : Config) : List (Text × Owner) :=
  d.models.map (fun m => (c.modelSchemaName m.name, .model m.name))
    ++ if enumsStandAlone d c then d.enums.map fun e => (enumSchemaName e.name, .enum e.name)
      else []

/-- The findings on identifiers, behind those in `taken`. -/
def clashFindings (taken : List (Text × Owner)) : List (Text × Owner) → List Finding
  | [] => []
  | (i, o) :: r =>
    match Ordered.get? i taken with
    | none => clashFindings (taken ++ [(i, o)]) r
    | some first =>
      (if first = o then [] else [.identifierClash i first o]) ++ clashFindings taken r

/-- No schema name has two owners, and no model takes the file of the enumerations. -/
def identifierFindings (d : DataModel) (c : Config) : List Finding :=
  (if enumsStandAlone d c then
      (d.modelNames.filter (moduleFileName · = "enums.ts")).map (.reservedFile · "enums.ts")
    else [])
    ++ clashFindings [] (identifiers d c)

/-- All findings on a run. -/
def findings (d : DataModel) (c : Config) : List Finding :=
  dataModelFindings d ++ settingsFindings c ++ identifierFindings d c

/-! ### The journal of a check -/

private def say (level : Level) (message : Text) : Entry := ⟨level, "zodgen.validators", message⟩

def dataModelJournal (d : DataModel) : Journal :=
  [say .info ("Data model validation complete: " ++ (reportOf (dataModelFindings d)).summary)]

def settingsJournal (c : Config) : Journal :=
  [say .info ("Config validation complete: " ++ (reportOf (settingsFindings c)).summary)]

/-- What the whole check reports, the verdict last. -/
def journal (d : DataModel) (c : Config) : Journal :=
  let r := reportOf (findings d c)
  say .info ("Starting full validation: " ++ Text.decimal d.models.length ++ " models, "
      ++ Text.decimal d.enums.length ++ " enums.")
    :: dataModelJournal d ++ settingsJournal c
    ++ [if r.hasErrors then
        say .error ("Validation FAILED with " ++ Text.decimal r.errors.length ++ " error(s). "
          ++ r.summary)
      else say .info ("Validation PASSED. " ++ r.summary)]

end ValidatorGen.Check
