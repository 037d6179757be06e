import ValidatorGen.Intake.Settings
import ValidatorGen.Path

/-!
# Reading an input document

An input document holds a data model, settings, and paths.  Paths that are relative are taken from
the folder of the document.
-/

namespace ValidatorGen.Intake

/-- What a run works on. -/
structure Request where
  dataModel : DataModel
  config : Config
  options : Options
  deriving Repr

/-- Why an input document is refused. -/
inductive RequestError
  | noDataModel
  /-- The settings are no mapping but of this kind. -/
  | settingsKind (kind : Text)
  | settings (fs : List Fault)
  | dataModel (fs : List Fault)
  | options (fs : List Fault)
  /-- A path is a whole number that has no written form. -/
  | longNumber
  | raised (r : Raised)
  deriving DecidableEq, Repr

namespace RequestError

def message : RequestError → Text
  | noDataModel =>
    "Cannot find data model in input. Expected top-level key 'datamodel' "
      ++ "holding a mapping with 'models' and 'enums'."
  | settingsKind k => "Expected 'config' to be a mapping, got " ++ k ++ "."
  | settings fs =>
    "Incorrect config provided. Please check the values you provided and try again.\n"
      ++ heading configRecord fs
  | dataModel fs => "Data model validation failed: " ++ heading dataModelRecord fs
  | options fs => heading optionsRecord fs
  | longNumber => Text.limitMessage ""
  | raised r => r.message

/-- The settings are at fault. -/
def isSettings : RequestError → Bool
  | settingsKind _ => true
  | settings _ => true
  | _ => false

/-- The class of errors that it belongs to. -/
def className (e : RequestError) : Text :=
  if e.isSettings then "ConfigurationError"
  else match e with
    | options _ => "ValidationError"
    | raised r => r.className
    | _ => "ValueError"

def faults : RequestError → List Fault
  | settings fs => fs
  | dataModel fs => fs
  | options fs => fs
  | _ => []

end RequestError

/-- The data model in a document: under `datamodel` or else `dmmf`, and there perhaps under
`datamodel` once more. -/
def dataModelIn? (raw : Entries) : Option Document :=
  match ((Document.field? "datamodel" raw).or (Document.field? "dmmf" raw)).map Document.opened with
  | some (.map es) =>
    match (Document.field? "datamodel" es).map Document.opened with
    | some (.map inner) => some (.map inner)
    | some _ => none
    | none => some (.map es)
  | _ => none

/-- The settings in a document; what is empty counts as no settings. -/
def settingsIn (raw : Entries) : Except RequestError Entries :=
  match Document.field? "config" raw with
  | none => .ok []
  | some d =>
    if d.isEmpty then .ok []
    else match d.opened with
      | .map es => .ok es
      | d => .error (.settingsKind d.kindName)

/-- A path in a document, seen from the folder of the document. -/
def fromFolder (folder? : Option Path) (path : Text) : Text :=
  match folder? with
  | none => path
  | some f =>
    let p := Path.ofText path
    if p.isAbsolute then path else (f.join p).text

/-- What is raised for a path that is too deep to be written. -/
def deepPath : Raised :=
  ⟨"RecursionError", "maximum recursion depth exceeded while getting the repr of an object"⟩

/-- The error for a path that cannot be written. -/
def obstacleError : Document.Obstacle → RequestError
  | .longNumber => .longNumber
  | .tooDeep => .raised deepPath

/-- The path under one of two names; null under the first one hides the second. -/
def pathIn? (room : Nat) (raw : Entries) (folder? : Option Path) (k : Key) :
    Except RequestError (Option Text) :=
  match k.find? raw with
  | none => .ok none
  | some (_, .null) => .ok none
  | some (_, d) =>
    match d.obstacle? room with
    | some b => .error (obstacleError b)
    | none => .ok (some (fromFolder folder? d.toText))

/-- The entry of a path that is there. -/
def pathEntry (name : Text) (path? : Option Text) : Entries :=
  (path?.map fun p => (.text name, .text p)).toList

def optionsIn (R : Readers) (raw : Entries) (folder? : Option Path) :
    Except RequestError Options := do
  let output? ← pathIn? R.textRoom raw folder? ⟨"outputPath", "output_path"⟩
  let schema? ← pathIn? R.textRoom raw folder? ⟨"schemaPath", "schema_path"⟩
  let client? ← pathIn? R.textRoom raw folder? ⟨"clientPath", "client_path"⟩
  match R.options (pathEntry "output_path" output? ++ pathEntry "schema_path" schema?
      ++ pathEntry "client_path" client?) with
    | .ok o => pure o
    | .refused (.faults fs) => throw (.options fs)
    | .refused (.raised r) => throw (.raised r)

/-- What reading the settings of a document reports. -/
def requestJournal (raw : Entries) : Journal :=
  match dataModelIn? raw, settingsIn raw with
  | some _, .ok es => hostJournal es
  | _, _ => []

/-- Reads an input document. -/
def readRequest (R : Readers) (raw : Entries) (folder? : Option Path) :
    Except RequestError Request := do
  let some d := dataModelIn? raw | throw .noDataModel
  let es ← settingsIn raw
  let c ← match readHostConfig R es with
    | .ok c => pure c
    | .refused (.faults fs) => throw (.settings fs)
    | .refused (.raised r) => throw (.raised r)
  let m ← match R.dataModel d with
    | .ok m => pure m
    | .refused (.faults fs) => throw (.dataModel fs)
    | .refused (.raised r) => throw (.raised r)
  pure ⟨m, c, ← optionsIn R raw folder?⟩

end ValidatorGen.Intake
