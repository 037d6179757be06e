import ValidatorGen.Text.Display
import ValidatorGen.Text.Whole

/-!
# The data model

A data model lists models, each a list of fields, and enumerations, each a list of values.  The
order of declaration is kept throughout.
-/

namespace ValidatorGen

/-- The portable scalar types. -/
inductive Scalar
  | string
  | int
  | bigInt
  | float
  | decimal
  | dateTime
  | boolean
  | bytes
  | json
  deriving DecidableEq, Repr

namespace Scalar

def all : List Scalar :=
  [string, int, bigInt, float, decimal, dateTime, boolean, bytes, json]

/-- The name of a scalar type in a data model. -/
def name : Scalar → Text
  | string => "String"
  | int => "Int"
  | bigInt => "BigInt"
  | float => "Float"
  | decimal => "Decimal"
  | dateTime => "DateTime"
  | boolean => "Boolean"
  | bytes => "Bytes"
  | json => "Json"

def ofName? (n : Text) : Option Scalar := all.find? (·.name == n)

theorem ofName?_name (s : Scalar) : ofName? s.name = some s := by
  cases s <;> decide

end Scalar

/-- What a field refers to. -/
inductive FieldKind
  | scalar
  | enum
  | relation
  deriving DecidableEq, Repr

def FieldKind.word : FieldKind → Text
  | scalar => "scalar"
  | enum => "enum"
  | relation => "relation"

/-- A default value that can be written as a literal. -/
inductive Literal
  | bool (b : Bool)
  | int (n : Int)
  | float (x : Float)
  | text (s : Text)
  deriving DecidableEq, Repr

/-- One field of a model. -/
structure Field where
  name : Text
  kind : FieldKind := .scalar
  type : Text
  isList : Bool := false
  isRequired : Bool := true
  default? : Option Literal := none
  documentation? : Option Text := none
  deriving DecidableEq, Repr

namespace Field

def isRelation (f : Field) : Bool := f.kind = .relation

def isEnum (f : Field) : Bool := f.kind = .enum

/-- The field's type is this scalar, whatever its kind. -/
def hasType (f : Field) (s : Scalar) : Bool := f.type = s.name

/-- A one-line view of the field. -/
def describe (f : Field) : Text :=
  "<Field " ++ f.name ++ ": " ++ f.type ++ (if f.isList then "[]" else "")
    ++ (if f.isRequired then "" else "?") ++ " (" ++ f.kind.word ++ ")>"

end Field

/-- One model. -/
structure Model where
  name : Text
  fields : List Field := []
  documentation? : Option Text := none
  deriving DecidableEq, Repr

namespace Model

def relationFields (m : Model) : List Field := m.fields.filter (·.isRelation)

/-- Every field that is no relation. -/
def scalarFields (m : Model) : List Field := m.fields.filter (!·.isRelation)

def enumFields (m : Model) : List Field := m.fields.filter (·.isEnum)

def hasRelations (m : Model) : Bool := m.fields.any (·.isRelation)

/-- A one-line view of the model. -/
def describe (m : Model) : Text :=
  "<Model " ++ m.name ++ " (" ++ Text.decimal m.fields.length ++ " fields)>"

end Model

/-- One enumeration. -/
structure Enumeration where
  name : Text
  values : List Text
  deriving DecidableEq, Repr

/-- A one-line view of the enumeration. -/
def Enumeration.describe (e : Enumeration) : Text :=
  "<Enum " ++ e.name ++ " [" ++ Text.join ", " (e.values.map Text.display) ++ "]>"

/-- All models and enumerations of a run. -/
structure DataModel where
  models : List Model := []
  enums : List Enumeration := []
  deriving DecidableEq, Repr

namespace DataModel

def modelNames (d : DataModel) : List Text := d.models.map (·.name)

def enumNames (d : DataModel) : List Text := d.enums.map (·.name)

/-- The first model of that name. -/
def model? (d : DataModel) (name : Text) : Option Model := d.models.find? (·.name == name)

/-- A one-line view of the data model. -/
def describe (d : DataModel) : Text :=
  "<DataModel " ++ Text.decimal d.models.length ++ " models, "
    ++ Text.decimal d.enums.length ++ " enums>"

end DataModel

end ValidatorGen
