import ValidatorGen.Disk.Basic
import ValidatorGen.Intake.Readers
import ValidatorGen.Journal
import ValidatorGen.Json.Reader
import ValidatorGen.Text.Case

/-!
# Loading an input document

An input document is a JSON or YAML file; the end of its name says which.  A file whose name does
not say it is read as JSON and, if that fails, as YAML.  Either way it must hold a mapping.
-/

namespace ValidatorGen.Run

/-- The part of the generator that drives a run. -/
def speaker : Text := "zodgen.generator"

/-- Why an input document is not loaded. -/
inductive LoadFault
  | notFound (path : Text)
  | notFile (path : Text)
  | disk (f : DiskFault)
  | json (path : Text) (text : Text) (t : Json.Trouble)
  | yaml (path : Text) (t : Intake.YamlTrouble)
  /-- A JSON file holds a value of another kind than a mapping. -/
  | notObject (kind : Text)
  /-- A YAML file holds a value of another kind than a mapping. -/
  | notMapping (kind : Text)
  deriving Repr

namespace LoadFault

/-- The class of errors that a fault belongs to. -/
def className : LoadFault → Text
  | notFound _ => "FileNotFoundError"
  | disk f => f.className
  | json _ _ (.tooDeep _) => "RecursionError"
  | yaml _ (.raised r) => r.className
  | _ => "ValueError"

def message : LoadFault → Text
  | notFound p => "Input file not found: " ++ p
  | notFile p => "Input path is not a file: " ++ p
  | disk f => f.message
  | json p s t =>
    match t with
    | .flaw .. => "Invalid JSON in " ++ p ++ ": " ++ t.message s
    | t => t.message s
  | yaml p t =>
    match t with
    | .malformed => "Invalid YAML in " ++ p
    | .noValue m => m
    | .raised r => r.message
  | notObject k => "Expected a JSON object at top level, got " ++ k ++ "."
  | notMapping k => "Expected a YAML mapping at top level, got " ++ k ++ "."

/-- The classes of errors on the disk that lie in the document. -/
def inputClasses : List Text := ["FileNotFoundError", "ValueError", "UnicodeDecodeError"]

/-- The document is at fault, not the surroundings; a run reports that. -/
def isInput : LoadFault → Bool
  | disk f => inputClasses.contains f.className
  | json _ _ (.tooDeep _) => false
  | yaml _ (.raised _) => false
  | _ => true

end LoadFault

def readText (d : Disk) (p : Path) : Except LoadFault Text :=
  match d.readText p with
  | .ok s => .ok s
  | .error f => .error (.disk f)

section

variable (R : Intake.Readers) (d : Disk) (p : Path)

def loadJson : Except LoadFault Intake.Entries := do
  let s ← readText d p
  match Json.read R.jsonRoom s with
  | .error t => throw (.json p.text s t)
  | .ok (.map es) => pure es
  | .ok v => throw (.notObject v.kindName)

def loadYaml : Except LoadFault Intake.Entries := do
  let s ← readText d p
  match (R.yaml s).map Document.opened with
  | .error t => throw (.yaml p.text t)
  | .ok (.map es) => pure es
  | .ok v => throw (.notMapping v.kindName)

/-- Loads a file of unknown form. -/
def loadEither : Except LoadFault Intake.Entries :=
  match loadJson R d p with
  | .ok es => .ok es
  | .error f => if f.isInput then loadYaml R d p else .error f

/-- Loads a file that exists. -/
def loadFile : Journal × Except LoadFault Intake.Entries :=
  let suffix := Text.lower p.suffix
  if suffix = ".yaml" ∨ suffix = ".yml" then ([], loadYaml R d p)
  else if suffix = ".json" then ([], loadJson R d p)
  else ([⟨.info, speaker, "Unknown extension '" ++ suffix ++ "' — trying JSON then YAML."⟩],
    loadEither R d p)

/-- Loads an input document. -/
def load : Journal × Except LoadFault Intake.Entries :=
  match d.find? p with
  | .error f => ([], .error (.disk f))
  | .ok none => ([], .error (.notFound p.text))
  | .ok (some n) => if n.isFolder then ([], .error (.notFile p.text)) else loadFile R d p

end

end ValidatorGen.Run
