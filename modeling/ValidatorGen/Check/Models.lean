import ValidatorGen.Check.Finding
import ValidatorGen.Check.Identifier
import ValidatorGen.DataModel
import ValidatorGen.Naming
import ValidatorGen.Ordered

/-!
# Checks of a data model

Models and enumerations have names of their own, each model a file of its own, and the fields of
a model have names of their own.  What a field refers to should be declared.
-/

namespace ValidatorGen.Check

/-! ### Names of models and enumerations -/

/-- The finding on the file of a model, where `files` lists the files of earlier models with
their owners. -/
def fileFinding? (files : List (Text × Text)) (model : Text) : Option Finding :=
  let file := moduleFileName model
  if file = "index.ts" then some (.reservedFile model file)
  else (Ordered.get? file files).map fun first => .fileCollision first model file

/-- The files after a model of this name. -/
def addFile (files : List (Text × Text)) (model : Text) : List (Text × Text) :=
  if (fileFinding? files model).isSome then files
  else files ++ [(moduleFileName model, model)]

/-- The findings on the names of models, behind models with names `seen` and these `files`.  A
repeated model is looked at no further. -/
def modelNameFindings (seen : List Text) (files : List (Text × Text)) :
    List Text → List Finding
  | [] => []
  | m :: ms =>
    if m ∈ seen then .duplicateModel m :: modelNameFindings seen files ms
    else
      (if acceptsName m then [] else [.invalidModelName m])
        ++ (fileFinding? files m).toList
        ++ modelNameFindings (m :: seen) (addFile files m) ms

/-- The findings on the names of enumerations, behind others with names `seen`. -/
def enumNameFindings (models seen : List Text) : List Text → List Finding
  | [] => []
  | e :: es =>
    (if e ∈ seen then [.duplicateEnum e] else [])
      ++ (if e ∈ models then [.enumModelClash e] else [])
      ++ enumNameFindings models (e :: seen) es

/-- Models and enumerations have names of their own, and models files of their own. -/
def nameFindings (d : DataModel) : List Finding :=
  modelNameFindings [] [] d.modelNames ++ enumNameFindings d.modelNames [] d.enumNames

/-! ### Fields -/

/-- The findings on the names of fields, behind others with names `seen`. -/
def fieldNameFindings (model : Text) (seen : List Text) : List Text → List Finding
  | [] => []
  | f :: fs =>
    (if f ∈ seen then [.duplicateField model f] else [])
      ++ (if acceptsName f then [] else [.invalidFieldName model f])
      ++ fieldNameFindings model (f :: seen) fs

/-- The fields of each model have names of their own. -/
def fieldFindings (d : DataModel) : List Finding :=
  d.models.flatMap fun m => fieldNameFindings m.name [] (m.fields.map (·.name))

/-! ### References -/

/-- What a field refers to is not declared. -/
def referenceFinding? (d : DataModel) (model : Text) (f : Field) : Option Finding :=
  match f.kind with
  | .relation =>
    if f.type ∈ d.modelNames then none else some (.unknownRelationTarget model f.name f.type)
  | .enum => if f.type ∈ d.enumNames then none else some (.unknownEnumType model f.name f.type)
  | .scalar =>
    if (Scalar.ofName? f.type).isSome then none
    else some (.unmappedScalarType model f.name f.type)

/-- Relations and enumerations that fields refer to are declared, and scalar types are known. -/
def referenceFindings (d : DataModel) : List Finding :=
  d.models.flatMap fun m => m.fields.filterMap (referenceFinding? d m.name)

/-- All findings on a data model. -/
def dataModelFindings (d : DataModel) : List Finding :=
  nameFindings d ++ fieldFindings d ++ referenceFindings d

end ValidatorGen.Check
