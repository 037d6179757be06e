import ValidatorGen.Emit.Comment
import ValidatorGen.Emit.Emitter
import ValidatorGen.Emit.Import

/-!
# The parts of a generated module

A module has sections: imports, helpers, the schema of the model's own fields, and, if the model
has relations, the interface and the schema that include them.  The latter is lazy, so that models
may refer to each other in a circle.
-/

namespace ValidatorGen.Emitter

open Emit

/-! ### Helpers -/

/-- The schema of any JSON value.  The value `null` is left out where the database client has its
own. -/
def jsonHelper (c : Config) : List Text :=
  let allowNull := !c.prismaJsonNullability
  ["// Helper schema for JSON fields",
    "type Literal = boolean | number | string" ++ (if allowNull then " | null" else ""),
    "type Json = Literal | \x7b [key: string]: Json \x7d | Json[]",
    "const literalSchema = z.union([z.string(), z.number(), z.boolean()"
      ++ (if allowNull then ", z.null()" else "") ++ "])",
    "const jsonSchema: z.ZodSchema<Json> = z.lazy(() => "
      ++ "z.union([literalSchema, z.array(jsonSchema), z.record(z.string(), jsonSchema)]))"]

/-- The schema of a decimal number. -/
def decimalHelper : List Text :=
  ["// Helper schema for Decimal fields",
    "const decimalSchema = z",
    "  .instanceof(Decimal)",
    "  .or(z.string())",
    "  .or(z.number())",
    "  .refine((value) => \x7b",
    "    try \x7b",
    "      return new Decimal(value)",
    "    \x7d catch (error) \x7b",
    "      return false",
    "    \x7d",
    "  \x7d)",
    "  .transform((value) => new Decimal(value))"]

/-- The helpers of a module, each a section. -/
def helpers (e : Emitter) (m : Model) : List (List Text) :=
  (if usesJson m then [jsonHelper e.config] else [])
    ++ (if e.usesDecimal m then [decimalHelper] else [])

/-! ### Imports -/

/-- The names that the fields of enumerations need. -/
def enumImports (e : Emitter) (m : Model) : Imports :=
  if m.enumFields.isEmpty then []
  else if e.config.useStandaloneEnums then
    [("./enums", m.enumFields.map fun f => enumSchemaName f.type)]
  else [(e.clientModule, m.enumFields.map (·.type))]

/-- The names that relations to other models need; a model's own names are declared in the same
module. -/
def relatedNames (e : Emitter) (m : Model) : List Text :=
  (m.relationFields.filter fun f => f.type ≠ m.name).flatMap fun f =>
    [completeTypeName f.type, e.config.relatedSchemaName f.type]

def relationImports (e : Emitter) (m : Model) : Imports :=
  let names := e.relatedNames m
  if e.needsComplete m && !names.isEmpty then [("./index", names)] else []

/-- The names that a module imports from other modules. -/
def namedImports (e : Emitter) (m : Model) : Imports :=
  mergeImports [e.enumImports m, e.relationImports m]

/-- The import statements of a module. -/
def importLines (e : Emitter) (m : Model) : List Text :=
  namespaceImport "z" e.config.zodImport
    :: (e.importsModule?.map (namespaceImport "imports")).toList
    ++ (if e.usesDecimal m then [namedImport false ["Decimal"] "decimal.js"] else [])
    ++ (e.namedImports m).map fun i => namedImport false i.2 i.1

/-! ### Schemas -/

/-- A property of a schema, under the comments of its field. -/
def property (f : Field) (x : Expression) : List Text :=
  commentBlock (Documentation.ofText? f.documentation?).comments
    ++ [f.name ++ ": " ++ x.render ++ ","]

/-- The schema of the fields that are no relations. -/
def scalarSchema (e : Emitter) (m : Model) : List Text :=
  commentBlock (Documentation.ofText? m.documentation?).comments
    ++ ["export const " ++ e.config.modelSchemaName m.name ++ " = z.object(\x7b"]
    ++ indent (m.scalarFields.flatMap fun f => property f (e.scalarExpression m.name f))
    ++ [("\x7d)" : Text)]

/-- The property of a relation in the interface. -/
def interfaceProperty (f : Field) : Text :=
  f.name ++ (if f.isRequired then "" else "?") ++ ": " ++ completeTypeName f.type
    ++ (if f.isList then "[]" else "") ++ (if f.isRequired then "" else " | null")

/-- The interface of a model with its relations. -/
def completeInterface (e : Emitter) (m : Model) : List Text :=
  ["export interface " ++ completeTypeName m.name ++ " extends z.infer<typeof "
      ++ e.config.modelSchemaName m.name ++ "> \x7b"]
    ++ indent (m.relationFields.map interfaceProperty)
    ++ [("\x7d" : Text)]

/-- The schema of a model with its relations. -/
def completeSchema (e : Emitter) (m : Model) : List Text :=
  let name := e.config.relatedSchemaName m.name
  let head : List Text :=
    ["/**",
      " * " ++ name ++ " contains all relations on your model in addition to the scalars",
      " *",
      " * NOTE: Lazy required in case of potential circular dependencies within schema",
      " */",
      "export const " ++ name ++ ": z.ZodSchema<" ++ completeTypeName m.name
        ++ "> = z.lazy(() => " ++ e.config.modelSchemaName m.name ++ ".extend(\x7b"]
  head ++ indent (m.relationFields.flatMap fun f => property f (e.relationExpression f))
    ++ [("\x7d))" : Text)]

end ValidatorGen.Emitter
