import ValidatorGen.Emit.Schema

/-!
# Generated modules

A run generates `index.ts`, which exports everything again, `enums.ts` if enumerations stand on
their own and there are any, and one module for each model, in the order of declaration.
-/

namespace ValidatorGen

/-- Generated files: name and text, in order. -/
abbrev Files := List (Text × Text)

namespace Emitter

open Emit

/-- Sections with an empty line between them; empty sections are left out. -/
def joinSections (sections : List (List Text)) : Text :=
  Text.join "\n\n" ((sections.filter (!·.isEmpty)).map (Text.join "\n" ·)) ++ "\n"

/-- The sections of a model's module. -/
def sections (e : Emitter) (m : Model) : List (List Text) :=
  e.importLines m :: e.helpers m ++ e.scalarSchema m
    :: if e.needsComplete m then [e.completeInterface m, e.completeSchema m] else []

/-- The module of a model. -/
def modelModule (e : Emitter) (m : Model) : Text := joinSections (e.sections m)

/-- The members of an enumeration, as they stand between the brackets of its schema. -/
def enumMembers (values : List Text) : Text := Text.join ", " (values.map Text.quoteSingle)

/-- The schema and the type of an enumeration. -/
def enumSections (n : Enumeration) : List (List Text) :=
  [["export const " ++ enumSchemaName n.name ++ " = z.enum([" ++ enumMembers n.values ++ "])"],
    ["export type " ++ enumTypeName n.name ++ " = z.infer<typeof " ++ enumSchemaName n.name
      ++ ">"]]

/-- The module of the enumerations. -/
def enumsModule (e : Emitter) (enums : List Enumeration) : Text :=
  joinSections ([namespaceImport "z" e.config.zodImport] :: enums.flatMap enumSections)

/-- Exports everything of a module again. -/
def exportAll (module : Text) : Text := "export * from " ++ Text.quoteSingle module

/-- The module that exports all others again. -/
def indexModule (models : List Model) (withEnums : Bool) : Text :=
  let lines := (models.map fun m => exportAll ("./" ++ moduleStem m.name))
    ++ if withEnums then [exportAll "./enums"] else []
  if lines.isEmpty then "" else Text.join "\n" lines ++ "\n"

/-- A module for the enumerations is generated. -/
def emitsEnums (e : Emitter) (d : DataModel) : Bool :=
  e.config.useStandaloneEnums && !d.enums.isEmpty

/-- The modules of a run, before those of one name fall together. -/
def allModules (e : Emitter) (d : DataModel) : Files :=
  let enums : Files := if e.emitsEnums d then [("enums.ts", e.enumsModule d.enums)] else []
  let models : Files := d.models.map fun m => (moduleFileName m.name, e.modelModule m)
  ("index.ts", indexModule d.models (e.emitsEnums d)) :: (enums ++ models)

/-- The modules of a run; of modules with one name the last one stays, at the place of the
first. -/
def generate (e : Emitter) (d : DataModel) : Files := Ordered.ofList (e.allModules d)

/-! ### The journal of generation -/

/-- What reading one documentation reports. -/
def documentationJournal (text? : Option Text) : Journal :=
  (Documentation.ofText? text?).warnings

/-- What the search for a decimal without a custom schema reports. -/
def decimalJournal (e : Emitter) (m : Model) : Journal :=
  if e.config.useDecimalJs then
    let decimals := m.fields.filter (·.hasType .decimal)
    let read := decimals.takeWhile fun f => (Documentation.ofText? f.documentation?).custom?.isSome
    read.flatMap fun f => documentationJournal f.documentation?
  else []

/-- What the fields of a schema report: each documentation is read for the comments and for the
directives. -/
def fieldsJournal (fs : List Field) : Journal :=
  fs.flatMap fun f =>
    documentationJournal f.documentation? ++ documentationJournal f.documentation?

/-- What the generation of one module reports. -/
def modelJournal (e : Emitter) (m : Model) : Journal :=
  e.decimalJournal m ++ e.decimalJournal m ++ fieldsJournal m.scalarFields
    ++ documentationJournal m.documentation?
    ++ if e.needsComplete m then fieldsJournal m.relationFields else []

/-- What the generation of one module reports until it comes to a default that cannot be written. -/
def brokenModelJournal (e : Emitter) (m : Model) : Journal :=
  let before := m.scalarFields.takeWhile (!·.isUnwritable)
  e.decimalJournal m ++ e.decimalJournal m
    ++ fieldsJournal (m.scalarFields.take (before.length + 1))

/-- What the generation of modules reports until it comes to a default that cannot be written;
none if there is no such default. -/
def brokenJournal? (e : Emitter) : List Model → Option Journal
  | [] => none
  | m :: ms =>
    if m.scalarFields.any Field.isUnwritable then some (e.brokenModelJournal m)
    else (e.brokenJournal? ms).map (e.modelJournal m ++ ·)

/-- What the generation of all modules reports. -/
def journal (e : Emitter) (d : DataModel) : Journal :=
  d.models.flatMap e.modelJournal
    ++ [⟨.info, "zodgen.templates", "Emitted " ++ Text.decimal (e.generate d).length
      ++ " module(s) for " ++ Text.decimal d.models.length ++ " model(s), "
      ++ Text.decimal d.enums.length ++ " enum(s)."⟩]

/-- The modules of a run with what their generation reports; if there is a default that cannot be
written, there are no modules, only what is reported up to there. -/
def emission (e : Emitter) (d : DataModel) : Except Journal (Files × Journal) :=
  match e.brokenJournal? d.models with
  | none => .ok (e.generate d, e.journal d)
  | some j => .error j

end Emitter

end ValidatorGen
