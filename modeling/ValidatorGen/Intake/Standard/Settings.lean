import ValidatorGen.Intake.Settings
import ValidatorGen.Intake.Standard.Value

/-!
# Reading settings and paths

A setting is looked up under its outer name first, and an entry that is not looked up that way is
refused.
-/

namespace ValidatorGen.Intake

/-- The mode of relations: the word `default` or a truth value. -/
def readMode (d : Document) : Reading RelationMode :=
  let modeOf (b : Bool) : RelationMode := if b then .related else .none
  if d == .text "default" then .ok .default
  else match readBool d with
    | .ok b => .ok (modeOf b)
    | .refused (.faults fs) =>
      .refused (.faults (⟨[.key "literal['default']"], .notLiteral "default"⟩
        :: fs.map (Fault.at (.key "bool"))))
    | .refused (.raised r) => .refused (.raised r)

/-- The case of names with this name. -/
def caseOfWord? (s : Text) : Option NameCase :=
  if s = "PascalCase" then some .pascal else if s = "camelCase" then some .camel else none

def readCase (d : Document) : Reading NameCase :=
  readChoice "'PascalCase' or 'camelCase'" caseOfWord? d

/-- Readers for a single setting. -/
def ValueReaders.standard : ValueReaders where
  text := readText
  name := readName
  truth := readBool
  mode := readMode
  nameCase := readCase

/-- The names under which the settings of these entries stand. -/
def usedNames (es : Entries) : List Text :=
  settingKeys.filterMap fun k => (k.find? es).map (·.1)

/-- The place of an entry under a key that is no text. -/
def stepOf : Document → Step
  | .bool b => .index (if b then 1 else 0)
  | .int n =>
    if -beyondNumbers ≤ n ∧ n < beyondNumbers then .index n else .key (Text.signedDecimal n)
  | k => .key k.shown

/-- What is wrong with an entry, if these are the names of all settings there. -/
def extraFault? (used : List Text) : Document → Option Fault
  | .text k => if k ∈ used then none else some ⟨[.key k], .extra⟩
  | k => some ⟨[stepOf k], .notKey⟩

/-- The entries that belong to no setting are refused. -/
def readNoExtra (es : Entries) : Reading Unit :=
  let used := usedNames es
  let fs := es.filterMap fun e => extraFault? used e.1
  if fs.isEmpty then .ok () else .refused (.faults fs)

/-- A key that is no text of characters alone. -/
def isBroken : Document → Bool
  | .text k => Text.hasHalf k
  | _ => false

/-- The settings in the entries of a mapping, and nothing else. -/
def readSettings (es : Entries) : Reading Config :=
  if es.any fun e => isBroken e.1 then .fault .notDecodable
  else ((ValueReaders.standard.settings es).map fun c _ => c).app (readNoExtra es)

def readConfig : Document → Reading Config := readRecord configRecord readSettings

/-! ### Paths -/

/-- The paths in the entries of a mapping. -/
def readPaths (es : Entries) : Reading Options :=
  Reading.ok Options.mk
    |>.app ((Key.plain "output_path").optional "./generated" readText es)
    |>.app ((Key.plain "schema_path").optional none (readNullable readText) es)
    |>.app ((Key.plain "client_path").optional none (readNullable readText) es)

def readOptions : Document → Reading Options := readRecord optionsRecord readPaths

def fileRecord : Text := "GeneratedFile"

/-- A generated file: its path and its content. -/
def readModuleFile : Document → Reading (Text × Text) :=
  readRecord fileRecord fun es =>
    Reading.ok Prod.mk
      |>.app ((Key.plain "path").required readName es)
      |>.app ((Key.plain "content").required readText es)

end ValidatorGen.Intake
