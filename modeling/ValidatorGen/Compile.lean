import ValidatorGen.Config
import ValidatorGen.DefaultLiteral
import ValidatorGen.Directive
import ValidatorGen.Expression
import ValidatorGen.Naming
import ValidatorGen.Native.Tag

/-!
# From a field to its validator

The parts of a validator, in this order: the base, refinements from the column type, the minimum
length, `array()`, the modifiers of the documentation, the default, `nullish()`.  Every field has
a validator: an unknown type gives `z.unknown()`, and a column type that says nothing about the
field's own type adds nothing.
-/

namespace ValidatorGen

namespace Compile

/-- A validator in the making. -/
structure Draft where
  base : Text
  tokens : List Text := []
  /-- The column type already says what the text looks like. -/
  special : Bool := false
  deriving DecidableEq, Repr

def unknown : Text := "z.unknown()"

def array : Text := "array()"

def nullish : Text := "nullish()"

/-! ### Column types -/

/-- The column type of a field: its tag in lower case, and its parameters. -/
def columnTag? (native? : Option Text) : Option Native.Tag :=
  (native?.bind Native.Tag.ofText?).map fun t => { t with name := Text.lower t.name }

def maxLengthTags : List Text := ["varchar", "char", "nvarchar", "nchar"]

def opaqueTags : List Text := ["varbinary", "binary"]

def decimalTags : List Text := ["decimal", "numeric"]

/-- `name(n)` as a modifier. -/
def bound (name : Text) (n : Int) : Text := name ++ "(" ++ Text.signedDecimal n ++ ")"

/-- The draft of a string field with the coercion `z`. -/
def draftString (z : Text) : Option Native.Tag → Draft
  | none => ⟨z ++ ".string()", [], false⟩
  | some t =>
    if t.name = "uuid" then ⟨"z.uuid()", [], true⟩
    else if t.name = "citext" then ⟨z ++ ".string().toLowerCase()", [], true⟩
    else if t.name ∈ maxLengthTags then
      ⟨z ++ ".string()",
        ((t.params.head?.bind fun p => Text.whole? p).map (bound "max")).toList, false⟩
    else if t.name ∈ opaqueTags then ⟨unknown, [], false⟩
    else if t.name = "objectid" then ⟨z ++ ".string()", ["regex(/^[0-9a-f]\x7b24\x7d$/i)"], true⟩
    else ⟨z ++ ".string()", [], false⟩

/-- The least and the greatest value of an integer column. -/
def intBounds (tag : Text) : Option Int × Option Int :=
  if tag = "smallint" then (some (-32768), some 32767)
  else if tag = "tinyint" then (some (-128), some 127)
  else if tag = "unsignedint" then (some 0, none)
  else if tag = "unsignedsmallint" then (some 0, some 65535)
  else if tag = "unsignedtinyint" then (some 0, some 255)
  else (none, none)

def draftInt (z : Text) (t? : Option Native.Tag) : Draft :=
  let (low, high) := (t?.map fun t => intBounds t.name).getD (none, none)
  let bounds := (low.map (bound "min")).toList ++ (high.map (bound "max")).toList
  ⟨z ++ ".number()", "int()" :: bounds, false⟩

/-- Accepts the numerals with at most `digits` digits before the point and at most `scale` behind
it. -/
def numeralRefinement (digits scale : Int) : Text :=
  let whole : Text := "\\d\x7b1," ++ Text.signedDecimal digits ++ "\x7d"
  let places : Text :=
    if scale = 0 then "" else "(\\.\\d\x7b1," ++ Text.signedDecimal scale ++ "\x7d)?"
  "refine(x => /^" ++ whole ++ places ++ "$/.test(x.toString()))"

/-- Accepts the numerals of this precision and scale; none if a number in the refinement would be
too long to be written. -/
def decimalRefinement? (precision scale : Int) : Option Text :=
  let digits := max (precision - scale) 1
  if Text.isLong digits || Text.isLong scale then none
  else some (numeralRefinement digits scale)

/-- The refinement that a decimal column asks for, if its parameters make sense. -/
def decimalToken? (t : Native.Tag) : Option Text :=
  if t.name ∈ decimalTags then
    match t.params with
    | [p, s] => do
      let precision ← Text.whole? p
      let scale ← Text.whole? s
      if precision ≤ 0 ∨ scale < 0 ∨ precision < scale then none
      else decimalRefinement? precision scale
    | _ => none
  else none

def draftDecimal (z : Text) (t? : Option Native.Tag) : Draft :=
  ⟨z ++ ".number()", (t?.bind decimalToken?).toList, false⟩

/-- The form of a column that holds a day or a time of the day. -/
def dayOrTimePattern? (tag : Text) : Option Text :=
  if tag = "date" then some "regex(/^\\d\x7b4\x7d-\\d\x7b2\x7d-\\d\x7b2\x7d$/)"
  else if tag = "timetz" then
    some "regex(/^\\d\x7b2\x7d:\\d\x7b2\x7d:\\d\x7b2\x7d[+-]\\d\x7b2\x7d:\\d\x7b2\x7d$/)"
  else if tag = "time" then some "regex(/^\\d\x7b2\x7d:\\d\x7b2\x7d:\\d\x7b2\x7d$/)"
  else none

def draftDateTime (z : Text) (t? : Option Native.Tag) : Draft :=
  match t?.bind fun t => dayOrTimePattern? t.name with
  | some p => ⟨z ++ ".string()." ++ p, [], false⟩
  | none => ⟨z ++ ".date()", [], false⟩

/-! ### Scalars -/

/-- What every string that is required must have. -/
def minLengthTokens (c : Config) : List Text :=
  let trim : List Text := if c.useTrimStrings then ["trim()"] else []
  let prefault : List Text :=
    if c.useTrimStrings && c.usePrefaultEmptyString then ["prefault(\"\")"] else []
  trim ++ [("min(1)" : Text)] ++ prefault

def addMinLength (c : Config) (required : Bool) (d : Draft) : Draft :=
  if c.useMinLength && required && !d.special then
    { d with tokens := d.tokens ++ minLengthTokens c }
  else d

/-- The namespace that base validators are taken from. -/
def namespaceOf (c : Config) : Text := if c.useCoerce then "z.coerce" else "z"

def draftScalar (f : Field) (native? : Option Text) (c : Config) : Draft :=
  let z := namespaceOf c
  match Scalar.ofName? f.type with
  | some .string => addMinLength c f.isRequired (draftString z (columnTag? native?))
  | some .int => draftInt z (columnTag? native?)
  | some .bigInt => ⟨z ++ ".bigint()", [], false⟩
  | some .float => ⟨z ++ ".number()", [], false⟩
  | some .decimal => draftDecimal z (columnTag? native?)
  | some .dateTime => draftDateTime z (columnTag? native?)
  | some .boolean => ⟨z ++ ".boolean()", [], false⟩
  | some .bytes => ⟨"z.instanceof(Buffer)", [], false⟩
  | some .json => ⟨"jsonSchema", [], false⟩
  | none => ⟨unknown, [], false⟩

/-- The base that an enumeration gives. -/
def enumBase (c : Config) (enum : Text) : Text :=
  if c.useStandaloneEnums then enumSchemaName enum else "z.enum(" ++ enum ++ ")"

/-- What the field is by itself; `related` names the schema of another model. -/
def draft (f : Field) (native? : Option Text) (c : Config) (related : Text → Text) : Draft :=
  match f.kind with
  | .scalar => draftScalar f native? c
  | .enum => ⟨enumBase c f.type, [], false⟩
  | .relation => ⟨related f.type, [], false⟩

/-- The base after the directives: the first custom schema, or else, on a string, the first
standalone validator. -/
def overrideBase (f : Field) (ds : List Directive) (base : Text) : Text :=
  match Directive.firstCustom ds with
  | some e => e
  | none =>
    match Directive.firstStandalone ds with
    | some call => if f.hasType .string then Directive.standaloneExpression call else base
    | none => base

/-- The default as a modifier, if it has a literal form. -/
def defaultToken? (l? : Option Literal) : Option Text :=
  (l?.bind Literal.render?).map fun l => "default(" ++ l ++ ")"

/-- The modifiers behind those of the field's own type. -/
def tailTokens (f : Field) (ds : List Directive) (l? : Option Literal) : List Text :=
  (if f.isList then [array] else []) ++ Directive.modifiers ds ++ (defaultToken? l?).toList
    ++ (if !f.isRequired && !f.hasType .json then [nullish] else [])

end Compile

/-- The validator of a field. -/
def compileField (f : Field) (native? : Option Text) (ds : List Directive)
    (default? : Option Literal) (c : Config) (related : Text → Text) : Expression :=
  let d := Compile.draft f native? c related
  .build (Compile.overrideBase f ds d.base) (d.tokens ++ Compile.tailTokens f ds default?)

end ValidatorGen
