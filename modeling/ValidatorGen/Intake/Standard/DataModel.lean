import ValidatorGen.DataModel
import ValidatorGen.Intake.Hook
import ValidatorGen.Intake.Readers
import ValidatorGen.Intake.Standard.Value

/-!
# Reading a data model
-/

namespace ValidatorGen.Intake

/-- The kind with this name. -/
def kindOfWord? (s : Text) : Option FieldKind :=
  if s = "scalar" then some .scalar
  else if s = "enum" then some .enum
  else if s = "relation" then some .relation
  else none

/-- The kind of a field. -/
def readKind (d : Document) : Reading FieldKind :=
  (kindHook d).read (readChoice "'scalar', 'enum' or 'relation'" kindOfWord?)

/-- The default that bytes stand for: a truth value if they are a word for one, else a number if
they are one, else a text. -/
def literalOfText (s : Text) : Literal :=
  match boolWord? s, wholeWord? s, decimalWord? s with
  | some b, _, _ => .bool b
  | none, some n, _ => .int n
  | none, none, some x => .float x
  | none, none, none => .text s

/-- A simple value, or null for none. -/
def readLiteral : Document → Reading (Option Literal)
  | .null => .ok none
  | .bool b => .ok (some (.bool b))
  | .int n => .ok (some (.int n))
  | .float x => .ok (some (.float x))
  | .nan _ => .ok (some (.float (0.0 / 0.0)))
  | .text s => .ok (some (.text s))
  | .bytes bs =>
    match Text.Utf8.decode bs with
    | .ok s => .ok (some (literalOfText s))
    | .error _ =>
      .refused (.faults
        [⟨[.key "bool"], .notBoolWord⟩, ⟨[.key "int"], .notIntWord⟩,
          ⟨[.key "float"], .notFloatWord⟩, ⟨[.key "str"], .notDecodable⟩])
  | _ =>
    .refused (.faults
      [⟨[.key "bool"], .notBool⟩, ⟨[.key "int"], .notInt⟩, ⟨[.key "float"], .notFloat⟩,
        ⟨[.key "str"], .notText⟩])

/-- A default. -/
def readDefault (d : Document) : Reading (Option Literal) := (defaultHook d).read readLiteral

def fieldRecord : Text := "FieldDescriptor"

def modelRecord : Text := "ModelDescriptor"

def enumRecord : Text := "EnumDescriptor"

/-- The documentation of a field or model. -/
def readDocumentation (es : Entries) : Reading (Option Text) :=
  (Key.plain "documentation").optional none (readNullable readText) es

def readField : Document → Reading Field :=
  readRecord fieldRecord fun es =>
    Reading.ok Field.mk
      |>.app ((Key.plain "name").required readName es)
      |>.app ((Key.plain "kind").optional .scalar readKind es)
      |>.app ((Key.plain "type").required readName es)
      |>.app ((Key.mk "isList" "is_list").optional false readBool es)
      |>.app ((Key.mk "isRequired" "is_required").optional true readBool es)
      |>.app ((Key.plain "default").optional none readDefault es)
      |>.app (readDocumentation es)

def readModel : Document → Reading Model :=
  readRecord modelRecord fun es =>
    Reading.ok Model.mk
      |>.app ((Key.plain "name").required readName es)
      |>.app ((Key.plain "fields").optional [] (readList readField) es)
      |>.app (readDocumentation es)

/-- Reads names, of which there must be one. -/
def readNames (d : Document) : Reading (List Text) :=
  (readList readText d).bind fun ns => if ns.isEmpty then .fault .noItems else .ok ns

/-- The values of an enumeration. -/
def readValues (d : Document) : Reading (List Text) := (valuesHook d).read readNames

def readEnumeration : Document → Reading Enumeration :=
  readRecord enumRecord fun es =>
    Reading.ok Enumeration.mk
      |>.app ((Key.plain "name").required readName es)
      |>.app ((Key.plain "values").required readValues es)

def readDataModel : Document → Reading DataModel :=
  readRecord dataModelRecord fun es =>
    Reading.ok DataModel.mk
      |>.app ((Key.plain "models").optional [] (readList readModel) es)
      |>.app ((Key.plain "enums").optional [] (readList readEnumeration) es)

end ValidatorGen.Intake
