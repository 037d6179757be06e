import ValidatorGen.Proofs.Compile.Base
import ValidatorGen.Proofs.Expression
import ValidatorGen.Proofs.Outline.Piece

/-!
# The outline of a model's module

* `render_outline` — the outline has the text of the module.
-/

namespace ValidatorGen.Emitter

open Emit Outline Compile

/-! ## Validators -/

/-- The base that a field has by itself. -/
def draftLine (use : Use) (f : Field) (native? : Option Text) (c : Config)
    (related : Text → Text) : Line :=
  match f.kind with
  | .scalar =>
    if f.hasType .json then [.refers use "jsonSchema"]
    else [.refers use "z", .text ((draftScalar f native? c).base.drop 1)]
  | .enum =>
    if c.useStandaloneEnums then [.refers use (enumSchemaName f.type)]
    else [.refers use "z", .text ".enum(", .refers use f.type, .text ")"]
  | .relation => [.refers use (related f.type)]

/-- The base after the directives; what a custom schema refers to is not the generator's. -/
def baseLine (use : Use) (f : Field) (ds : List Directive) (draft : Line) : Line :=
  match Directive.firstCustom ds with
  | some e => [.text e]
  | none =>
    match Directive.firstStandalone ds with
    | some call => if f.hasType .string then [.refers use "z", .text ("." ++ call)] else draft
    | none => draft

/-- A validator, whose modifiers refer to nothing but their own parameters. -/
def validatorLine (use : Use) (f : Field) (native? : Option Text) (ds : List Directive)
    (default? : Option Literal) (c : Config) (related : Text → Text) : Line :=
  baseLine use f ds (draftLine use f native? c related)
    ++ [.text (Expression.chainText (compileField f native? ds default? c related).modifiers)]

theorem render_draftLine (use : Use) (f : Field) (native? : Option Text) (c : Config)
    (related : Text → Text) :
    (draftLine use f native? c related).render = (draft f native? c related).base := by
  unfold draftLine draft
  cases f.kind with
  | scalar =>
    dsimp only
    cases hj : f.hasType .json with
    | true =>
      rw [draftScalar_json hj]
      rfl
    | false =>
      obtain ⟨rest, hrest⟩ := (isScalarBase_draftScalar hj native? c).exists_cons
      rw [if_neg Bool.false_ne_true, hrest]
      exact congrArg (.char 'z' :: ·) (List.append_nil rest)
  | enum =>
    dsimp only
    unfold enumBase
    split_ifs
    · exact List.append_nil _
    · simp only [Line.render, List.flatMap_cons, List.flatMap_nil, Piece.render, List.append_nil]
      rfl
  | relation => exact List.append_nil _

theorem render_baseLine (use : Use) (f : Field) (ds : List Directive) (l : Line) :
    (baseLine use f ds l).render = overrideBase f ds l.render := by
  unfold baseLine overrideBase
  cases Directive.firstCustom ds with
  | some e => exact List.append_nil e
  | none =>
    cases Directive.firstStandalone ds with
    | some call =>
      dsimp only
      split_ifs
      · exact congrArg (("z." : Text) ++ ·) (List.append_nil call)
      · rfl
    | none => rfl

theorem render_validatorLine (use : Use) (f : Field) (native? : Option Text)
    (ds : List Directive) (default? : Option Literal) (c : Config) (related : Text → Text) :
    (validatorLine use f native? ds default? c related).render
      = (compileField f native? ds default? c related).render := by
  unfold validatorLine
  rw [Line.render_append, render_baseLine, render_draftLine, Expression.render_eq,
    Line.render_singleton]
  rfl

/-! ## Sections -/

/-- A property of a schema, under the comments of its field. -/
def propertyLines (use : Use) (f : Field) (native? : Option Text) (default? : Option Literal)
    (c : Config) (related : Text → Text) : List Line :=
  let d := Documentation.ofText? f.documentation?
  (commentBlock d.comments).map Line.plain
    ++ [.text (f.name ++ ": ") :: validatorLine use f native? d.directives default? c related
      ++ [.text ","]]

def jsonHelperLines (c : Config) : List Line :=
  let allowNull := !c.prismaJsonNullability
  [[.text "// Helper schema for JSON fields"],
    [.declares false .type "Literal",
      .text (" = boolean | number | string" ++ (if allowNull then " | null" else ""))],
    [.declares false .type "Json", .text " = ", .refers .type "Literal",
      .text " | \x7b [key: string]: ", .refers .type "Json", .text " \x7d | ",
      .refers .type "Json", .text "[]"],
    [.declares false .const "literalSchema", .text " = ", .refers .eager "z", .text ".union([",
      .refers .eager "z", .text ".string(), ", .refers .eager "z", .text ".number(), ",
      .refers .eager "z", .text ".boolean()"]
      ++ (if allowNull then [.text ", ", .refers .eager "z", .text ".null()"] else [])
      ++ [.text "])"],
    [.declares false .const "jsonSchema", .text ": ", .refers .type "z", .text ".ZodSchema<",
      .refers .type "Json", .text "> = ", .refers .eager "z", .text ".lazy(() => ",
      .refers .deferred "z", .text ".union([", .refers .deferred "literalSchema", .text ", ",
      .refers .deferred "z", .text ".array(", .refers .deferred "jsonSchema", .text "), ",
      .refers .deferred "z", .text ".record(", .refers .deferred "z", .text ".string(), ",
      .refers .deferred "jsonSchema", .text ")]))"]]

def decimalHelperLines : List Line :=
  [[.text "// Helper schema for Decimal fields"],
    [.declares false .const "decimalSchema", .text " = ", .refers .eager "z"],
    [.text "  .instanceof(", .refers .eager "Decimal", .text ")"],
    [.text "  .or(", .refers .eager "z", .text ".string())"],
    [.text "  .or(", .refers .eager "z", .text ".number())"],
    [.text "  .refine((value) => \x7b"],
    [.text "    try \x7b"],
    [.text "      return new ", .refers .deferred "Decimal", .text "(value)"],
    [.text "    \x7d catch (error) \x7b"],
    [.text "      return false"],
    [.text "    \x7d"],
    [.text "  \x7d)"],
    [.text "  .transform((value) => new ", .refers .deferred "Decimal", .text "(value))"]]

def helperSections (e : Emitter) (m : Model) : List (List Line) :=
  (if usesJson m then [jsonHelperLines e.config] else [])
    ++ (if e.usesDecimal m then [decimalHelperLines] else [])

def importSection (e : Emitter) (m : Model) : List Line :=
  [.importsAll "z" e.config.zodImport]
    :: (e.importsModule?.map fun i => [.importsAll "imports" i]).toList
    ++ (if e.usesDecimal m then [[.imports ["Decimal"] "decimal.js"]] else [])
    ++ (e.namedImports m).map fun i => [.imports i.2 i.1]

def scalarSection (e : Emitter) (m : Model) : List Line :=
  (commentBlock (Documentation.ofText? m.documentation?).comments).map Line.plain
    ++ [[.declares true .const (e.config.modelSchemaName m.name), .text " = ",
      .refers .eager "z", .text ".object(\x7b"]]
    ++ Outline.indent (m.scalarFields.flatMap fun f =>
      propertyLines .eager f (e.hints.get? m.name f.name) f.default? e.config id)
    ++ [[.text "\x7d)"]]

/-- The property of a relation in the interface. -/
def interfaceLine (f : Field) : Line :=
  let optional : Text := if f.isRequired then "" else "?"
  let list : Text := if f.isList then "[]" else ""
  let null : Text := if f.isRequired then "" else " | null"
  [.text (f.name ++ optional ++ ": "), .refers .type (completeTypeName f.type), .text (list ++ null)]

def interfaceSection (e : Emitter) (m : Model) : List Line :=
  [[.declares true .interface (completeTypeName m.name), .text " extends ", .refers .type "z",
      .text ".infer<typeof ", .refers .type (e.config.modelSchemaName m.name), .text "> \x7b"]]
    ++ Outline.indent (m.relationFields.map interfaceLine)
    ++ [[.text "\x7d"]]

def completeSection (e : Emitter) (m : Model) : List Line :=
  let name := e.config.relatedSchemaName m.name
  [[.text "/**"],
    [.text (" * " ++ name ++ " contains all relations on your model in addition to the scalars")],
    [.text " *"],
    [.text " * NOTE: Lazy required in case of potential circular dependencies within schema"],
    [.text " */"],
    [.declares true .const name, .text ": ", .refers .type "z", .text ".ZodSchema<",
      .refers .type (completeTypeName m.name), .text "> = ", .refers .eager "z",
      .text ".lazy(() => ", .refers .deferred (e.config.modelSchemaName m.name),
      .text ".extend(\x7b"]]
    ++ Outline.indent (m.relationFields.flatMap fun f =>
      propertyLines .deferred f none none e.config e.config.relatedSchemaName)
    ++ [[.text "\x7d))"]]

/-- The module of a model with its names told apart. -/
def outline (e : Emitter) (m : Model) : Module :=
  e.importSection m :: e.helperSections m ++ e.scalarSection m
    :: if e.needsComplete m then [e.interfaceSection m, e.completeSection m] else []

/-! ## The text of the outline -/

theorem renderLines_propertyLines (use : Use) (f : Field) (native? : Option Text)
    (default? : Option Literal) (c : Config) (related : Text → Text) :
    renderLines (propertyLines use f native? default? c related) =
      property f (compileField f native? (Documentation.ofText? f.documentation?).directives
        default? c related) := by
  unfold propertyLines property
  rw [renderLines_append, renderLines_plain]
  congr 1
  rw [renderLines, List.map_singleton, List.cons_append, Line.render_cons, Line.render_append,
    render_validatorLine, Line.render_singleton, ← List.append_assoc]
  rfl

theorem renderLines_jsonHelperLines (c : Config) :
    renderLines (jsonHelperLines c) = jsonHelper c := by
  unfold jsonHelperLines jsonHelper
  cases c.prismaJsonNullability <;>
    simp only [renderLines, List.map_cons, List.map_nil, List.append_nil, List.cons_append,
      List.nil_append, Line.render_cons, Line.render_nil, Piece.render, Kind.word, Bool.not_true,
      Bool.not_false, Bool.false_eq_true, if_true, if_false, ← ofString_append,
      String.reduceAppend]

theorem renderLines_decimalHelperLines : renderLines decimalHelperLines = decimalHelper := by
  simp only [decimalHelperLines, decimalHelper, renderLines, List.map_cons, List.map_nil,
    List.append_nil, Line.render_cons, Line.render_nil, Piece.render, Kind.word, Bool.false_eq_true,
    if_false, ← ofString_append, String.reduceAppend]

theorem renderLines_importSection (e : Emitter) (m : Model) :
    renderLines (e.importSection m) = e.importLines m := by
  have hz : renderLines ([.importsAll "z" e.config.zodImport]
        :: (e.importsModule?.map fun i => [.importsAll "imports" i]).toList)
      = namespaceImport "z" e.config.zodImport
        :: (e.importsModule?.map (namespaceImport "imports")).toList := by
    cases e.importsModule? with
    | none => simp only [renderLines, Option.map_none, Option.toList_none, List.map_singleton,
        Line.render_singleton, Piece.render]
    | some i => simp only [renderLines, Option.map_some, Option.toList_some, List.map_cons,
        List.map_nil, Line.render_singleton, Piece.render]
  have hdecimal : renderLines (if e.usesDecimal m then [[.imports ["Decimal"] "decimal.js"]] else [])
      = if e.usesDecimal m then [namedImport false ["Decimal"] "decimal.js"] else [] := by
    split_ifs <;> rfl
  unfold importSection importLines
  rw [renderLines_append, renderLines_append, hz, hdecimal]
  congr 1
  unfold renderLines
  rw [List.map_map]
  exact List.map_congr_left fun i _ => Line.render_singleton (.imports i.2 i.1)

theorem renderLines_scalarSection (e : Emitter) (m : Model) :
    renderLines (e.scalarSection m) = e.scalarSchema m := by
  have hbody : renderLines (m.scalarFields.flatMap fun f =>
      propertyLines .eager f (e.hints.get? m.name f.name) f.default? e.config id)
      = m.scalarFields.flatMap fun f => property f (e.scalarExpression m.name f) := by
    rw [renderLines_flatMap]
    exact congrArg m.scalarFields.flatMap (funext fun f => renderLines_propertyLines ..)
  unfold scalarSection scalarSchema
  rw [renderLines_append, renderLines_append, renderLines_append, renderLines_plain,
    renderLines_indent, hbody]
  congr 3

theorem renderLines_interfaceSection (e : Emitter) (m : Model) :
    renderLines (e.interfaceSection m) = e.completeInterface m := by
  unfold interfaceSection completeInterface
  rw [renderLines_append, renderLines_append, renderLines_indent]
  congr 1
  congr 1
  · simp only [renderLines, List.map_singleton, Line.render_cons, Line.render_nil, Piece.render,
      List.append_nil, List.append_assoc]
    rfl
  · congr 1
    unfold renderLines
    rw [List.map_map]
    refine List.map_congr_left fun f _ => ?_
    simp only [Function.comp_apply, interfaceLine, interfaceProperty, Line.render_cons,
      Line.render_nil, Piece.render, List.append_nil, List.append_assoc, apply_ite Text.ofString]

theorem renderLines_completeSection (e : Emitter) (m : Model) :
    renderLines (e.completeSection m) = e.completeSchema m := by
  have hbody : renderLines (m.relationFields.flatMap fun f =>
      propertyLines .deferred f none none e.config e.config.relatedSchemaName)
      = m.relationFields.flatMap fun f => property f (e.relationExpression f) := by
    rw [renderLines_flatMap]
    exact congrArg m.relationFields.flatMap (funext fun f => renderLines_propertyLines ..)
  unfold completeSection completeSchema
  dsimp only
  rw [renderLines_append, renderLines_append, renderLines_indent, hbody]
  congr 2
  simp only [renderLines, List.map_cons, List.map_nil, Line.render_cons, Line.render_nil,
    Piece.render, List.append_nil, List.append_assoc]
  rfl

/-- The outline has the text of the module. -/
theorem render_outline (e : Emitter) (m : Model) : (e.outline m).render = e.sections m := by
  have hhelpers : (e.helperSections m).map renderLines = e.helpers m := by
    unfold helperSections helpers
    rw [List.map_append, apply_ite (List.map renderLines), apply_ite (List.map renderLines),
      List.map_singleton, List.map_singleton, renderLines_jsonHelperLines,
      renderLines_decimalHelperLines]
    rfl
  unfold outline sections Module.render
  rw [List.map_append, List.map_cons, List.map_cons, hhelpers, renderLines_importSection,
    renderLines_scalarSection, apply_ite (List.map renderLines)]
  simp only [List.map_cons, List.map_nil, renderLines_interfaceSection,
    renderLines_completeSection]

end ValidatorGen.Emitter
