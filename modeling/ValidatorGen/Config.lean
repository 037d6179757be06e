import ValidatorGen.Text.CodePoint

/-!
# Settings of the generator
-/

namespace ValidatorGen

/-- Whether schemas that include relations are generated, and under which names. -/
inductive RelationMode
  /-- Related schemas carry the prefix `Related`. -/
  | related
  | none
  /-- Related schemas take the plain name, scalar schemas an underscore in front. -/
  | default
  deriving DecidableEq, Repr

inductive NameCase
  | pascal
  | camel
  deriving DecidableEq, Repr

def NameCase.word : NameCase → Text
  | pascal => "PascalCase"
  | camel => "camelCase"

/-- The settings of a run. -/
structure Config where
  relationMode : RelationMode := .related
  modelSuffix : Text := "Model"
  modelCase : NameCase := .pascal
  useCoerce : Bool := false
  useDecimalJs : Bool := true
  useStandaloneEnums : Bool := false
  prismaJsonNullability : Bool := true
  useMinLength : Bool := false
  useTrimStrings : Bool := false
  usePrefaultEmptyString : Bool := false
  imports? : Option Text := none
  zodImport : Text := "zod"
  deriving DecidableEq, Repr

def Config.relationsEnabled (c : Config) : Bool := c.relationMode ≠ .none

/-- Where a run finds its inputs and leaves its outputs. -/
structure Options where
  outputPath : Text := "./generated"
  schemaPath? : Option Text := none
  clientPath? : Option Text := none
  deriving DecidableEq, Repr

end ValidatorGen
