import ValidatorGen.Check.Report

/-!
# What the checks find

Each kind of finding with the names that it is about.  `severity`, `code`, `message` and
`particulars` say how it is reported.
-/

namespace ValidatorGen.Check

/-- What a generated identifier stands for. -/
inductive Owner
  | model (name : Text)
  | enum (name : Text)
  deriving DecidableEq, Repr

def Owner.text : Owner → Text
  | model n => "model '" ++ n ++ "'"
  | enum n => "enum '" ++ n ++ "'"

inductive Finding
  | duplicateModel (model : Text)
  | invalidModelName (model : Text)
  /-- The model's module would take the place of one that every run generates. -/
  | reservedFile (model file : Text)
  | fileCollision (first model file : Text)
  | duplicateEnum (enum : Text)
  | enumModelClash (enum : Text)
  | duplicateField (model field : Text)
  | invalidFieldName (model field : Text)
  | unknownRelationTarget (model field type : Text)
  | unknownEnumType (model field type : Text)
  | unmappedScalarType (model field type : Text)
  | identifierClash (identifier : Text) (first second : Owner)
  | prefaultWithoutTrim
  | trimWithoutMinLength
  | invalidModelSuffix (suffix : Text)
  | invalidZodImport (module : Text)
  | emptyImportsPath
  deriving DecidableEq, Repr

namespace Finding

def severity : Finding → Severity
  | unknownRelationTarget .. => .warning
  | unknownEnumType .. => .warning
  | unmappedScalarType .. => .info
  | prefaultWithoutTrim => .warning
  | trimWithoutMinLength => .warning
  | emptyImportsPath => .warning
  | _ => .error

def isError (f : Finding) : Bool := f.severity = .error

def code : Finding → Text
  | duplicateModel _ => "DUPLICATE_MODEL_NAME"
  | invalidModelName _ => "INVALID_MODEL_NAME"
  | reservedFile .. => "RESERVED_MODULE_FILE"
  | fileCollision .. => "MODULE_FILE_COLLISION"
  | duplicateEnum _ => "DUPLICATE_ENUM_NAME"
  | enumModelClash _ => "ENUM_MODEL_NAME_CLASH"
  | duplicateField .. => "DUPLICATE_FIELD_NAME"
  | invalidFieldName .. => "INVALID_FIELD_NAME"
  | unknownRelationTarget .. => "UNKNOWN_RELATION_TARGET"
  | unknownEnumType .. => "UNKNOWN_ENUM_TYPE"
  | unmappedScalarType .. => "UNMAPPED_SCALAR_TYPE"
  | identifierClash .. => "IDENTIFIER_CLASH"
  | prefaultWithoutTrim => "PREFAULT_WITHOUT_TRIM"
  | trimWithoutMinLength => "TRIM_WITHOUT_MIN_LENGTH"
  | invalidModelSuffix _ => "INVALID_MODEL_SUFFIX"
  | invalidZodImport _ => "INVALID_ZOD_IMPORT"
  | emptyImportsPath => "EMPTY_IMPORTS_PATH"

/-- A name between quotes. -/
def quoted (name : Text) : Text := "'" ++ name ++ "'"

/-- A field with its model between quotes. -/
def quotedField (model field : Text) : Text := quoted (model ++ "." ++ field)

def message : Finding → Text
  | duplicateModel m => "Model " ++ quoted m ++ " is declared more than once."
  | invalidModelName m => "Model name " ++ quoted m ++ " is not a valid identifier."
  | reservedFile m f => "Model " ++ quoted m ++ " would overwrite the generated " ++ quoted f ++ "."
  | fileCollision a m f =>
    "Models " ++ quoted a ++ " and " ++ quoted m ++ " would both be written to " ++ quoted f ++ "."
  | duplicateEnum e => "Enum " ++ quoted e ++ " is declared more than once."
  | enumModelClash e => quoted e ++ " is declared both as a model and as an enum."
  | duplicateField m f => "Field " ++ quotedField m f ++ " is declared more than once."
  | invalidFieldName m f => "Field name " ++ quotedField m f ++ " is not a valid identifier."
  | unknownRelationTarget m f t =>
    "Relation " ++ quotedField m f ++ " targets undeclared model " ++ quoted t ++ "."
  | unknownEnumType m f t =>
    "Enum field " ++ quotedField m f ++ " references undeclared enum " ++ quoted t ++ "."
  | unmappedScalarType m f t =>
    "Field " ++ quotedField m f ++ " has type " ++ quoted t
      ++ "; it will be emitted as z.unknown()."
  | identifierClash i a b =>
    "Generated identifier " ++ quoted i ++ " is produced by both " ++ a.text ++ " and " ++ b.text
      ++ "."
  | prefaultWithoutTrim =>
    "usePrefaultEmptyString only applies when useMinLength and useTrimStrings are both enabled."
  | trimWithoutMinLength => "useTrimStrings only applies when useMinLength is enabled."
  | invalidModelSuffix s => "modelSuffix " ++ quoted s ++ " would produce invalid identifiers."
  | invalidZodImport m => "zodImport " ++ quoted m ++ " is not a valid module specifier."
  | emptyImportsPath => "imports is set to an empty path and will be ignored."

/-- The names that a finding is about. -/
def names : Finding → List (Text × Text)
  | duplicateModel m => [("model", m)]
  | invalidModelName m => [("model", m)]
  | reservedFile m f => [("model", m), ("file", f)]
  | fileCollision _ m f => [("model", m), ("file", f)]
  | duplicateEnum e => [("enum", e)]
  | enumModelClash e => [("enum", e)]
  | duplicateField m f => [("model", m), ("field", f)]
  | invalidFieldName m f => [("model", m), ("field", f)]
  | unknownRelationTarget m f t => [("model", m), ("field", f), ("type", t)]
  | unknownEnumType m f t => [("model", m), ("field", f), ("type", t)]
  | unmappedScalarType m f t => [("model", m), ("field", f), ("type", t)]
  | identifierClash i .. => [("identifier", i)]
  | prefaultWithoutTrim => []
  | trimWithoutMinLength => []
  | invalidModelSuffix s => [("modelSuffix", s)]
  | invalidZodImport m => [("zodImport", m)]
  | emptyImportsPath => []

/-- The finding as an item of a report. -/
def item (f : Finding) : Item where
  severity := f.severity
  code := f.code
  message := f.message
  particulars := f.names.map fun p => (p.1, .text p.2)

end Finding

/-- The report of some findings. -/
def reportOf (fs : List Finding) : Report := fs.map (·.item)

theorem isValid_reportOf (fs : List Finding) :
    (reportOf fs).isValid = !fs.any (·.isError) := by
  simp [reportOf, Report.isValid, Report.hasErrors, Item.isError, Finding.item, Finding.isError,
    Function.comp_def]

end ValidatorGen.Check
