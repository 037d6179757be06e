import ValidatorGen.Proofs.Modules.Generate
import ValidatorGen.Proofs.Outline.Linkage

/-!
# The outlines of a run

* `flatMap_collect_enumsOutline` — what the module of the enumerations imports and exports;
* `generate_eq_outlineFiles` — the modules of a valid run, the index apart, have outlines, and these
  have the text of the modules.
-/

namespace ValidatorGen.Emitter

open Emit Outline

/-! ## The module of the enumerations -/

/-- The schema and the type of an enumeration. -/
def enumOutline (n : Enumeration) : Module :=
  [[[.declares true .const (enumSchemaName n.name), .text " = ", .refers .eager "z",
      .text (".enum([" ++ enumMembers n.values ++ "])")]],
    [[.declares true .type (enumTypeName n.name), .text " = ", .refers .type "z",
      .text ".infer<typeof ", .refers .type (enumSchemaName n.name), .text ">"]]]

/-- The module of the enumerations with its names told apart. -/
def enumsOutline (e : Emitter) (enums : List Enumeration) : Module :=
  [[.importsAll "z" e.config.zodImport]] :: enums.flatMap enumOutline

theorem render_enumOutline (n : Enumeration) : (enumOutline n).render = enumSections n := by
  simp only [enumOutline, enumSections, Module.render, renderLines, List.map_cons, List.map_nil,
    Line.render_cons, Line.render_nil, Piece.render, List.append_nil, List.append_assoc]
  rfl

theorem render_enumsOutline (e : Emitter) (enums : List Enumeration) :
    joinSections (e.enumsOutline enums).render = e.enumsModule enums := by
  have hbody : (enums.flatMap enumOutline).map renderLines = enums.flatMap enumSections := by
    rw [List.map_flatMap]
    exact congrArg enums.flatMap (funext render_enumOutline)
  have hhead : renderLines [[.importsAll "z" e.config.zodImport]]
      = [namespaceImport "z" e.config.zodImport] :=
    congrArg (fun s => [s]) (Line.render_singleton (.importsAll "z" e.config.zodImport))
  unfold enumsOutline enumsModule Module.render
  rw [List.map_cons, hbody, hhead]

/-- What a reading that passes over references finds in the module of the enumerations. -/
theorem flatMap_collect_enumsOutline {α : Type} {f : Piece → Option α}
    (ht : ∀ s, f (.text s) = none) (hr : ∀ u x, f (.refers u x) = none) (e : Emitter)
    (enums : List Enumeration) : (e.enumsOutline enums).flatMap (collect f)
      = (f (.importsAll "z" e.config.zodImport)).toList ++ enums.flatMap fun n =>
        (f (.declares true .const (enumSchemaName n.name))).toList
          ++ (f (.declares true .type (enumTypeName n.name))).toList := by
  have hhead : collect f [[.importsAll "z" e.config.zodImport]]
      = (f (.importsAll "z" e.config.zodImport)).toList := by
    cases hz : f (.importsAll "z" e.config.zodImport) <;> simp [collect, hz]
  have hbody : ∀ n : Enumeration, (enumOutline n).flatMap (collect f)
      = (f (.declares true .const (enumSchemaName n.name))).toList
        ++ (f (.declares true .type (enumTypeName n.name))).toList := by
    intro n
    cases hc : f (.declares true .const (enumSchemaName n.name)) <;>
      cases hn : f (.declares true .type (enumTypeName n.name)) <;>
      simp [enumOutline, collect, ht, hr, hc, hn]
  unfold enumsOutline
  rw [List.flatMap_cons, List.flatMap_assoc, hhead]
  exact congrArg _ (List.flatMap_congr fun n _ => hbody n)

theorem exported_enumsOutline (e : Emitter) (enums : List Enumeration) :
    (e.enumsOutline enums).exported = enums.flatMap fun n =>
      [(.const, enumSchemaName n.name), (.type, enumTypeName n.name)] :=
  flatMap_collect_enumsOutline (fun _ => rfl) (fun _ _ => rfl) e enums

/-- The module of the enumerations takes nothing but `z`. -/
theorem zodImport_of_mem_takenFrom {e : Emitter} {enums : List Enumeration} {s x : Text}
    (h : x ∈ (e.enumsOutline enums).takenFrom s) : e.config.zodImport = s := by
  have hnone : (enums.flatMap fun n =>
      (Piece.importedAll? (.declares true .const (enumSchemaName n.name))).toList
        ++ (Piece.importedAll? (.declares true .type (enumTypeName n.name))).toList) = [] :=
    List.flatMap_eq_nil_iff.2 fun _ _ => rfl
  have hall : (e.enumsOutline enums).flatMap (collect Piece.importedAll?)
      = [(e.config.zodImport, ("z" : Text))] := by
    rw [flatMap_collect_enumsOutline (fun _ => rfl) (fun _ _ => rfl), hnone]
    rfl
  have hnames : (e.enumsOutline enums).flatMap importedIn = [] :=
    (flatMap_collect_enumsOutline (f := Piece.imported?) (fun _ => rfl)
      (fun _ _ => rfl) e enums).trans (List.flatMap_eq_nil_iff.2 fun _ _ => rfl)
  unfold Module.takenFrom Module.importedFrom at h
  rw [hall, hnames, List.filter_nil, List.flatMap_nil, List.append_nil] at h
  obtain ⟨i, hi, -⟩ := List.mem_map.1 h
  obtain ⟨hi, hs⟩ := List.mem_filter.1 hi
  rw [List.mem_singleton.1 hi] at hs
  exact of_decide_eq_true hs

/-! ## The modules of a run -/

/-- The outlines of the modules of a run, the index apart, by file. -/
def outlines (e : Emitter) (d : DataModel) : List (Text × Module) :=
  let enums : List (Text × Module) :=
    if e.emitsEnums d then [("enums.ts", e.enumsOutline d.enums)] else []
  enums ++ d.models.map fun m => (moduleFileName m.name, e.outline m)

/-- The files with the text of the outlines. -/
def outlineFiles (e : Emitter) (d : DataModel) : Files :=
  (e.outlines d).map fun o => (o.1, joinSections o.2.render)

theorem allModules_eq_outlineFiles (e : Emitter) (d : DataModel) :
    e.allModules d = (("index.ts" : Text), indexModule d.models (e.emitsEnums d)) :: e.outlineFiles d := by
  have hmodels : (d.models.map fun m => (moduleFileName m.name, e.outline m)).map
        (fun o => (o.1, joinSections o.2.render))
      = d.models.map fun m => (moduleFileName m.name, e.modelModule m) := by
    rw [List.map_map]
    refine List.map_congr_left fun m _ => ?_
    show (_, joinSections (e.outline m).render) = _
    rw [render_outline]
    rfl
  unfold allModules outlineFiles outlines
  dsimp only
  rw [List.map_append, hmodels]
  split_ifs
  · rw [List.map_singleton, render_enumsOutline]
  · rfl

/-- The modules of a valid run have the text of their outlines. -/
theorem generate_eq_outlineFiles {e : Emitter} {d : DataModel}
    (h : (Check.reportOf (Check.findings d e.config)).isValid = true) :
    e.generate d = (("index.ts" : Text), indexModule d.models (e.emitsEnums d)) :: e.outlineFiles d :=
  (generate_eq_allModules h).trans (allModules_eq_outlineFiles e d)

/-! ## Exported names -/

/-- What the modules of a run export. -/
def exported (e : Emitter) (d : DataModel) : List (Kind × Text) :=
  (e.outlines d).flatMap (·.2.exported)

/-- The names that the modules of a run export. -/
def exportedNames (e : Emitter) (d : DataModel) : List Text := (e.exported d).map (·.2)

end ValidatorGen.Emitter
