import ValidatorGen.Compile
import ValidatorGen.Documentation
import ValidatorGen.ModuleSpecifier
import ValidatorGen.Native.Hints

/-!
# What the emitter knows

The settings, the hints on column types, and the modules outside the generated ones that generated
code imports from.
-/

namespace ValidatorGen

/-- Everything that the generated text depends on beside the data model. -/
structure Emitter where
  config : Config
  hints : Native.Hints
  /-- Where enumerations of the database client come from. -/
  clientModule : Text
  /-- Where directives find the names behind `imports`. -/
  importsModule? : Option Text
  deriving DecidableEq, Repr

namespace Emitter

/-- The module of the database client. -/
def clientModuleOf (cwd : List Text) (o : Options) : Text :=
  match o.clientPath? with
  | none | some [] => "@prisma/client"
  | some p => ModuleSpecifier.relative cwd p o.outputPath

/-- The schema source, if it matters whether it is a folder. -/
def askedSource? (c : Config) (o : Options) : Option Path :=
  if (c.imports?.getD "").isEmpty then none else o.schemaPath?.map .ofText

/-- The folder that `imports` is relative to: the schema source if it is a folder, else the one
it is in, and the working directory if there is no schema source. -/
def importsBase (sourceIsFolder : Bool) (o : Options) : Path :=
  match o.schemaPath? with
  | none => ⟨0, []⟩
  | some s => if sourceIsFolder then .ofText s else (Path.ofText s).parent

/-- The module that directives know as `imports`. -/
def importsModuleOf (cwd : List Text) (sourceIsFolder : Bool) (c : Config) (o : Options) :
    Option Text :=
  match c.imports? with
  | none | some [] => none
  | some i =>
    some (ModuleSpecifier.between
      (((importsBase sourceIsFolder o).join (Path.ofText i)).absolute cwd)
      ((Path.ofText o.outputPath).absolute cwd))

/-- The emitter for a run with these settings and paths. -/
def ofOptions (cwd : List Text) (sourceIsFolder : Bool) (c : Config) (o : Options)
    (h : Native.Hints) : Emitter where
  config := c
  hints := h
  clientModule := clientModuleOf cwd o
  importsModule? := importsModuleOf cwd sourceIsFolder c o

/-! ### Fields -/

/-- The validator of a field that is no relation. -/
def scalarExpression (e : Emitter) (model : Text) (f : Field) : Expression :=
  compileField f (e.hints.get? model f.name) (Documentation.ofText? f.documentation?).directives
    f.default? e.config id

/-- The validator of a relation: the related schema of its target. -/
def relationExpression (e : Emitter) (f : Field) : Expression :=
  compileField f none (Documentation.ofText? f.documentation?).directives none e.config
    e.config.relatedSchemaName

/-- A schema with relations is generated for this model. -/
def needsComplete (e : Emitter) (m : Model) : Bool := e.config.relationsEnabled && m.hasRelations

/-- The module needs the helper for decimals: one of its decimals has no custom schema. -/
def usesDecimal (e : Emitter) (m : Model) : Bool :=
  e.config.useDecimalJs && m.fields.any fun f =>
    f.hasType .decimal && (Documentation.ofText? f.documentation?).custom?.isNone

/-- The module needs the helper for JSON values. -/
def usesJson (m : Model) : Bool := m.fields.any fun f => f.hasType .json && !f.isRelation

end Emitter

end ValidatorGen
