import ValidatorGen.Config
import ValidatorGen.Text.Case

/-!
# Generated names

The names of schemas, types and files, made from the names of models and enumerations by changing
the case of the first letter and adding words in front and behind.
-/

namespace ValidatorGen

/-- The name with its first character in lower case. -/
def lowerFirst (name : Text) : Text :=
  match name with
  | [] => ""
  | c :: r => (Text.lowerChar c ++ r)

/-- The name with its first character in upper case. -/
def upperFirst (name : Text) : Text :=
  match name with
  | [] => ""
  | c :: r => (Text.upperChar c ++ r)

/-- The schema of an enumeration that stands on its own. -/
def enumSchemaName (enum : Text) : Text := lowerFirst enum ++ "Schema"

/-- The type inferred from it. -/
def enumTypeName (enum : Text) : Text := upperFirst (enumSchemaName enum)

/-- The interface of a model with its relations. -/
def completeTypeName (model : Text) : Text := "Complete" ++ model

/-- A module's name without its suffix. -/
def moduleStem (model : Text) : Text := Text.lower model

/-- The file that a model is written to. -/
def moduleFileName (model : Text) : Text := moduleStem model ++ ".ts"

namespace Config

/-- A schema name: the case of the settings, then their suffix. -/
def schemaName (c : Config) (name : Text) : Text :=
  (match c.modelCase with
    | .pascal => name
    | .camel => lowerFirst name) ++ c.modelSuffix

/-- The schema of a model's own fields. -/
def modelSchemaName (c : Config) (model : Text) : Text :=
  (if c.relationMode = .default then "_" else "") ++ c.schemaName model

/-- The schema of a model with its relations. -/
def relatedSchemaName (c : Config) (model : Text) : Text :=
  if c.relationMode = .default then c.schemaName model else c.schemaName ("Related" ++ model)

end Config

end ValidatorGen
