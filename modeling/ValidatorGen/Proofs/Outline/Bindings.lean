import Mathlib.Data.List.Pairwise
import ValidatorGen.Proofs.Outline.Answered

/-!
# The names that one module binds

The module of a model binds names from six sources: the modules that it imports as a whole, the
helpers with what they need, the enumerations, the models that it is related to, its own schema,
and its own interface and schema with relations.  The check of a run compares the schemas of
models and of enumerations, and nothing else.

* `bound_outline` — what the module of a model binds, by source;
* `nodup_importedNames_iff` — a name is imported twice only from two modules;
* `nodup_bound_iff` — the names of a module are distinct if those are that the check does not
  compare.
-/

namespace ValidatorGen.Emitter

open Emit Outline

/-! ## Families of names -/

/-- What every module may import, whatever its fields refer to. -/
def toolNames (e : Emitter) (m : Model) : List Text :=
  let decimal : List Text := if e.usesDecimal m then ["Decimal"] else []
  ("z" : Text) :: (e.importsModule?.map fun _ => ("imports" : Text)).toList ++ decimal

/-- What the helpers declare. -/
def helperNames (e : Emitter) (m : Model) : List Text :=
  let decimal : List Text := if e.usesDecimal m then ["decimalSchema"] else []
  (if usesJson m then jsonHelperNames else []) ++ decimal

/-- The names that do not depend on what models and enumerations are called. -/
def fixedNames (e : Emitter) (m : Model) : List Text := e.toolNames m ++ e.helperNames m

/-- The other models that a model is related to, as far as its module says so. -/
def otherModels (e : Emitter) (m : Model) : List Text :=
  if e.needsComplete m then (m.relationFields.filter (·.type ≠ m.name)).map (·.type) else []

/-- What stands for them. -/
def otherNames (e : Emitter) (m : Model) : List Text :=
  (e.otherModels m).map completeTypeName ++ (e.otherModels m).map e.config.relatedSchemaName

/-- The model itself, if it has a schema with relations. -/
def completeModel (e : Emitter) (m : Model) : List Text :=
  if e.needsComplete m then [m.name] else []

/-- The models whose interfaces and schemas with relations a module names. -/
def relatedModels (e : Emitter) (m : Model) : List Text := e.completeModel m ++ e.otherModels m

/-- What the statements for enumerations and relations import. -/
def importedNames (e : Emitter) (m : Model) : List Text :=
  (e.namedImports m).flatMap fun i => i.2.eraseDups

/-- What the module of a model declares beside the helpers. -/
def ownDeclarations (e : Emitter) (m : Model) : List Text :=
  e.config.modelSchemaName m.name :: ((e.completeModel m).map completeTypeName
    ++ (e.completeModel m).map e.config.relatedSchemaName)

variable {e : Emitter} {m : Model}

/-! ## What is bound -/

theorem boundIn_flatMap_propertyLines {use : Use} {fs : List Field}
    {native? : Field → Option Text} {default? : Field → Option Literal} {c : Config}
    {related : Text → Text} :
    boundIn (fs.flatMap fun f => propertyLines use f (native? f) (default? f) c related) = [] := by
  refine boundIn_eq_nil fun l hl p hp => ?_
  obtain ⟨f, -, hl⟩ := List.mem_flatMap.1 hl
  rcases mem_propertyLines hl hp with ⟨s, rfl⟩ | ⟨x, -, rfl⟩ <;> rfl

theorem boundIn_importSection (e : Emitter) (m : Model) :
    boundIn (e.importSection m) = e.toolNames m ++ e.importedNames m := by
  have hnamed : boundIn ((e.namedImports m).map fun i => [.imports i.2 i.1])
      = e.importedNames m := by
    unfold boundIn importedNames
    induction e.namedImports m with
    | nil => rfl
    | cons i is ih =>
      rw [List.map_cons, List.flatten_cons, List.flatMap_append, ih, List.flatMap_singleton,
        List.flatMap_cons]
      rfl
  unfold importSection toolNames
  rw [boundIn_append, boundIn_append, hnamed]
  congr 1
  cases e.importsModule? <;> cases e.usesDecimal m <;> rfl

theorem flatMap_boundIn_helperSections (e : Emitter) (m : Model) :
    (e.helperSections m).flatMap boundIn = e.helperNames m := by
  have hjson : boundIn (jsonHelperLines e.config) = jsonHelperNames := by
    unfold jsonHelperLines
    cases e.config.prismaJsonNullability <;> rfl
  unfold helperSections helperNames
  cases usesJson m <;> cases e.usesDecimal m <;> simp [hjson] <;> rfl

theorem boundIn_scalarSection (e : Emitter) (m : Model) :
    boundIn (e.scalarSection m) = [e.config.modelSchemaName m.name] := by
  unfold scalarSection
  rw [boundIn_append, boundIn_append, boundIn_append, boundIn_plain, boundIn_indent,
    boundIn_flatMap_propertyLines]
  rfl

theorem boundIn_interfaceSection (e : Emitter) (m : Model) :
    boundIn (e.interfaceSection m) = [completeTypeName m.name] := by
  have hbody : boundIn (m.relationFields.map interfaceLine) = [] := by
    refine boundIn_eq_nil fun l hl p hp => ?_
    obtain ⟨f, -, rfl⟩ := List.mem_map.1 hl
    simp only [interfaceLine, List.mem_cons, List.not_mem_nil, or_false] at hp
    rcases hp with rfl | rfl | rfl <;> rfl
  unfold interfaceSection
  rw [boundIn_append, boundIn_append, boundIn_indent, hbody]
  rfl

theorem boundIn_completeSection (e : Emitter) (m : Model) :
    boundIn (e.completeSection m) = [e.config.relatedSchemaName m.name] := by
  unfold completeSection
  dsimp only
  rw [boundIn_append, boundIn_append, boundIn_indent, boundIn_flatMap_propertyLines]
  rfl

/-- What the module of a model binds, by source. -/
theorem bound_outline (e : Emitter) (m : Model) : (e.outline m).bound =
    (e.toolNames m ++ e.importedNames m) ++ (e.helperNames m ++ e.ownDeclarations m) := by
  unfold Module.bound outline ownDeclarations completeModel
  rw [List.cons_append, List.flatMap_cons, List.flatMap_append, List.flatMap_cons,
    flatMap_boundIn_helperSections, boundIn_importSection, boundIn_scalarSection]
  split_ifs
  · rw [List.flatMap_cons, List.flatMap_cons, boundIn_interfaceSection, boundIn_completeSection]
    rfl
  · rfl

theorem bound_outline_perm (e : Emitter) (m : Model) : (e.outline m).bound.Perm
    (e.fixedNames m ++ (e.importedNames m ++ e.ownDeclarations m)) := by
  rw [bound_outline]
  unfold fixedNames
  rw [List.append_assoc, List.append_assoc]
  exact (List.perm_append_comm_assoc _ _ _).append_left _

/-! ## What is imported -/

theorem mem_otherNames {x : Text} :
    x ∈ e.otherNames m ↔ e.needsComplete m = true ∧ x ∈ e.relatedNames m := by
  unfold otherNames otherModels relatedNames
  split_ifs with hn
  · have hperm := flatMap_pair_perm (m.relationFields.filter (·.type ≠ m.name))
      (fun f => completeTypeName f.type) fun f => e.config.relatedSchemaName f.type
    rw [List.map_map, List.map_map]
    exact ⟨fun h => ⟨hn, hperm.mem_iff.2 h⟩, fun h => hperm.mem_iff.1 h.2⟩
  · simp [hn]

/-- What the statement for a module imports. -/
theorem exists_mem_namedImports_iff {s x : Text} :
    (∃ names, (s, names) ∈ e.namedImports m ∧ x ∈ names) ↔
      s = e.enumSource ∧ x ∈ e.enumReferences m ∨ s = "./index" ∧ x ∈ e.otherNames m := by
  constructor
  · rintro ⟨names, hi, hx⟩
    obtain ⟨g, hg, j, hj, rfl, hx⟩ := exists_group_of_mem_mergeImports hi hx
    simp only [List.mem_cons, List.not_mem_nil, or_false] at hg
    rcases hg with rfl | rfl
    · rw [enumImports_eq] at hj
      split_ifs at hj
      · exact absurd hj List.not_mem_nil
      · cases List.mem_singleton.1 hj
        exact .inl ⟨rfl, hx⟩
    · obtain ⟨hn, hj⟩ := List.mem_ite_nil_right.1 hj
      cases List.mem_singleton.1 hj
      exact .inr ⟨rfl, mem_otherNames.2 ⟨(Bool.and_eq_true_iff.1 hn).1, hx⟩⟩
  · rintro (⟨rfl, hx⟩ | ⟨rfl, hx⟩)
    · obtain ⟨f, hf, -⟩ := List.mem_map.1 hx
      have hg : e.enumImports m = [(e.enumSource, e.enumReferences m)] := by
        rw [enumImports_eq, if_neg (by simpa using List.ne_nil_of_mem hf)]
      exact exists_mem_mergeImports (i := (e.enumSource, e.enumReferences m)) List.mem_cons_self
        (hg ▸ List.mem_singleton_self _) hx
    · obtain ⟨hn, hx⟩ := mem_otherNames.1 hx
      have hg : e.relationImports m = [(("./index" : Text), e.relatedNames m)] := by
        unfold relationImports
        dsimp only
        rw [hn, List.isEmpty_eq_false_iff.2 (List.ne_nil_of_mem hx)]
        rfl
      exact exists_mem_mergeImports (i := (("./index" : Text), e.relatedNames m))
        (List.mem_cons_of_mem _ List.mem_cons_self) (hg ▸ List.mem_singleton_self _) hx

theorem mem_importedNames {x : Text} :
    x ∈ e.importedNames m ↔ x ∈ e.enumReferences m ∨ x ∈ e.otherNames m := by
  have hall : x ∈ e.importedNames m ↔ ∃ s names, (s, names) ∈ e.namedImports m ∧ x ∈ names := by
    simp [importedNames]
  rw [hall]
  simp only [exists_mem_namedImports_iff]
  constructor
  · rintro ⟨s, ⟨-, h⟩ | ⟨-, h⟩⟩
    · exact .inl h
    · exact .inr h
  · rintro (h | h)
    · exact ⟨_, .inl ⟨rfl, h⟩⟩
    · exact ⟨_, .inr ⟨rfl, h⟩⟩

/-- There is one statement for each module, and it imports no name twice; so a name is imported
twice only from two modules. -/
theorem nodup_importedNames_iff : (e.importedNames m).Nodup ↔
    (e.enumSource ≠ "./index" → (e.enumReferences m).Disjoint (e.otherNames m)) := by
  have hkeys : (e.namedImports m).Pairwise fun i j => i.1 ≠ j.1 :=
    List.pairwise_map.1 (nodup_keys_mergeImports [e.enumImports m, e.relationImports m])
  have hnodup : ∀ i ∈ e.namedImports m, i.2.eraseDups.Nodup := fun i _ =>
    Expression.nodup_eraseDups i.2
  unfold importedNames
  rw [List.nodup_flatMap, and_iff_right hnodup]
  constructor
  · intro h hne x hx hx'
    obtain ⟨names, hi, hx⟩ := exists_mem_namedImports_iff.2 (.inl ⟨rfl, hx⟩)
    obtain ⟨names', hi', hx'⟩ := exists_mem_namedImports_iff.2 (.inr ⟨rfl, hx'⟩)
    have hsymm : Std.Symm (Function.onFun List.Disjoint
        fun i : Text × List Text => i.2.eraseDups) := ⟨fun _ _ h _ hx hx' => h hx' hx⟩
    exact h.forall hi hi' (fun he => hne (Prod.mk.inj he).1) (List.mem_eraseDups.2 hx)
      (List.mem_eraseDups.2 hx')
  · intro h
    refine hkeys.imp_of_mem fun {i j} hi hj hij x hx hx' => ?_
    have hx := exists_mem_namedImports_iff.1 ⟨_, hi, List.mem_eraseDups.1 hx⟩
    have hx' := exists_mem_namedImports_iff.1 ⟨_, hj, List.mem_eraseDups.1 hx'⟩
    -- Two statements are for two modules, so one is for enumerations and one for relations.
    rcases hx with ⟨hs, hx⟩ | ⟨hs, hx⟩ <;> rcases hx' with ⟨hs', hx'⟩ | ⟨hs', hx'⟩
    · exact hij (hs.trans hs'.symm)
    · exact h (fun he => hij (hs.trans (he.trans hs'.symm))) hx hx'
    · exact h (fun he => hij (hs.trans (he.symm.trans hs'.symm))) hx' hx
    · exact hij (hs.trans hs'.symm)

/-! ## Names that are different -/

/-- All names that do not depend on what models and enumerations are called. -/
def allFixedNames : List Text :=
  ["z", "imports", "Decimal", "Literal", "Json", "literalSchema", "jsonSchema", "decimalSchema"]

theorem fixedNames_sublist (e : Emitter) (m : Model) :
    (e.fixedNames m).Sublist allFixedNames := by
  unfold fixedNames toolNames helperNames
  cases e.importsModule? <;> cases e.usesDecimal m <;> cases usesJson m <;>
    simp only [Option.map_none, Option.map_some, Option.toList_none, Option.toList_some,
      Bool.false_eq_true, if_false, if_true] <;> decide

theorem nodup_fixedNames (e : Emitter) (m : Model) : (e.fixedNames m).Nodup :=
  List.Nodup.sublist (fixedNames_sublist e m) (by decide)

/-- No fixed name begins like one with an underscore or a word in front. -/
theorem not_mem_fixedNames {c : CodePoint} (hc : c ∈ (['_', 'C', 'R', 'r'] : List CodePoint))
    (s : Text) : c :: s ∉ e.fixedNames m := by
  have hheads : ∀ x ∈ allFixedNames, ∀ c ∈ (['_', 'C', 'R', 'r'] : List CodePoint),
      x.head? ≠ some c := by decide
  exact fun h => hheads _ ((fixedNames_sublist e m).subset h) c hc rfl

theorem nodup_map_completeModel (f : Text → Text) : ((e.completeModel m).map f).Nodup := by
  unfold completeModel
  split_ifs
  · exact List.nodup_singleton _
  · exact List.nodup_nil

theorem disjoint_importedNames_left {xs : List Text} : (e.importedNames m).Disjoint xs ↔
    (e.enumReferences m).Disjoint xs ∧ (e.otherNames m).Disjoint xs := by
  simp only [List.disjoint_left, mem_importedNames, or_imp, forall_and]

theorem disjoint_importedNames_right {xs : List Text} : xs.Disjoint (e.importedNames m) ↔
    xs.Disjoint (e.enumReferences m) ∧ xs.Disjoint (e.otherNames m) := by
  simp only [List.disjoint_right, mem_importedNames, or_imp, forall_and]

theorem disjoint_map_relatedModels {f : Text → Text} {xs : List Text} :
    xs.Disjoint ((e.relatedModels m).map f) ↔
      xs.Disjoint ((e.completeModel m).map f) ∧ xs.Disjoint ((e.otherModels m).map f) := by
  rw [relatedModels, List.map_append, List.disjoint_append_right]

theorem not_mem_map_relatedModels {f : Text → Text} {x : Text} :
    x ∉ (e.relatedModels m).map f ↔
      x ∉ (e.completeModel m).map f ∧ x ∉ (e.otherModels m).map f := by
  rw [relatedModels, List.map_append, List.mem_append, not_or]

/-- The names of two families are different, for all families of one module. -/
structure AreApart (e : Emitter) (m : Model) : Prop where
  fixed_schema : e.config.modelSchemaName m.name ∉ e.fixedNames m
  fixed_interface : (e.fixedNames m).Disjoint ((e.relatedModels m).map completeTypeName)
  fixed_related : (e.fixedNames m).Disjoint ((e.relatedModels m).map e.config.relatedSchemaName)
  fixed_enum : (e.fixedNames m).Disjoint (e.enumReferences m)
  schema_interface :
    e.config.modelSchemaName m.name ∉ (e.relatedModels m).map completeTypeName
  schema_own :
    e.config.modelSchemaName m.name ∉ (e.completeModel m).map e.config.relatedSchemaName
  schema_related :
    e.config.modelSchemaName m.name ∉ (e.otherModels m).map e.config.relatedSchemaName
  interface_related : ((e.completeModel m).map completeTypeName).Disjoint
    ((e.relatedModels m).map e.config.relatedSchemaName)
  interface_other : ((e.completeModel m).map completeTypeName).Disjoint
    ((e.otherModels m).map completeTypeName)
  related_interface : ((e.completeModel m).map e.config.relatedSchemaName).Disjoint
    ((e.otherModels m).map completeTypeName)
  related_other : ((e.completeModel m).map e.config.relatedSchemaName).Disjoint
    ((e.otherModels m).map e.config.relatedSchemaName)
  enum_schema : e.config.modelSchemaName m.name ∉ e.enumReferences m
  enum_interface : (e.enumReferences m).Disjoint ((e.completeModel m).map completeTypeName)
  enum_related :
    (e.enumReferences m).Disjoint ((e.completeModel m).map e.config.relatedSchemaName)
  /-- One statement imports enumerations and relations, if they come from one module. -/
  enum_otherInterface : e.enumSource ≠ "./index" →
    (e.enumReferences m).Disjoint ((e.otherModels m).map completeTypeName)
  enum_otherRelated : e.enumSource ≠ "./index" →
    (e.enumReferences m).Disjoint ((e.otherModels m).map e.config.relatedSchemaName)

theorem nodup_bound_iff_areApart : (e.outline m).bound.Nodup ↔ AreApart e m := by
  -- No two fixed names are the same; what is left is imported or declared.
  have hnodup : (e.outline m).bound.Nodup ↔
      ((e.importedNames m).Nodup ∧ (e.ownDeclarations m).Nodup ∧
        (e.importedNames m).Disjoint (e.ownDeclarations m)) ∧
      (e.fixedNames m).Disjoint (e.importedNames m) ∧
        (e.fixedNames m).Disjoint (e.ownDeclarations m) := by
    rw [(bound_outline_perm e m).nodup_iff, List.nodup_append', List.nodup_append',
      List.disjoint_append_right, and_iff_right (nodup_fixedNames e m)]
  rw [hnodup, nodup_importedNames_iff, disjoint_importedNames_left, disjoint_importedNames_right]
  unfold ownDeclarations otherNames
  simp only [List.nodup_cons, List.nodup_append', List.disjoint_append_left,
    List.disjoint_append_right, List.disjoint_cons_right, List.mem_append, not_or,
    nodup_map_completeModel, true_and]
  constructor
  · rintro ⟨⟨henum, ⟨⟨hi, hr⟩, hir⟩, ⟨hes, hei, her⟩, ⟨hoiS, horS⟩, ⟨hoiI, horI⟩, ⟨hoiR, horR⟩⟩,
      ⟨hfe, hfoi, hfor⟩, hfs, hfi, hfr⟩
    exact {
      fixed_schema := hfs
      fixed_interface := disjoint_map_relatedModels.2 ⟨hfi, hfoi⟩
      fixed_related := disjoint_map_relatedModels.2 ⟨hfr, hfor⟩
      fixed_enum := hfe
      schema_interface := not_mem_map_relatedModels.2 ⟨hi, hoiS⟩
      schema_own := hr
      schema_related := horS
      interface_related := disjoint_map_relatedModels.2 ⟨hir, List.disjoint_comm.1 horI⟩
      interface_other := List.disjoint_comm.1 hoiI
      related_interface := List.disjoint_comm.1 hoiR
      related_other := List.disjoint_comm.1 horR
      enum_schema := hes
      enum_interface := hei
      enum_related := her
      enum_otherInterface := fun hs => (henum hs).1
      enum_otherRelated := fun hs => (henum hs).2 }
  · intro h
    obtain ⟨hfi, hfoi⟩ := disjoint_map_relatedModels.1 h.fixed_interface
    obtain ⟨hfr, hfor⟩ := disjoint_map_relatedModels.1 h.fixed_related
    obtain ⟨hi, hoi⟩ := not_mem_map_relatedModels.1 h.schema_interface
    obtain ⟨hir, hio⟩ := disjoint_map_relatedModels.1 h.interface_related
    exact ⟨⟨fun hs => ⟨h.enum_otherInterface hs, h.enum_otherRelated hs⟩,
        ⟨⟨hi, h.schema_own⟩, hir⟩, ⟨h.enum_schema, h.enum_interface, h.enum_related⟩,
        ⟨hoi, h.schema_related⟩,
        ⟨List.disjoint_comm.1 h.interface_other, List.disjoint_comm.1 hio⟩,
        ⟨List.disjoint_comm.1 h.related_interface, List.disjoint_comm.1 h.related_other⟩⟩,
      ⟨h.fixed_enum, hfoi, hfor⟩, h.fixed_schema, hfi, hfr⟩

/-! ## Clashes -/

/-- The names of one module that the check of a run does not compare are different. -/
structure HasNoLocalClash (e : Emitter) (m : Model) : Prop where
  fixed_schema : e.config.relationMode ≠ .default →
    e.config.modelSchemaName m.name ∉ e.fixedNames m
  fixed_related : e.config.relationMode = .default →
    (e.fixedNames m).Disjoint ((e.relatedModels m).map e.config.relatedSchemaName)
  fixed_enum : (e.fixedNames m).Disjoint (e.enumReferences m)
  schema_interface : e.config.relationMode ≠ .default → e.config.modelCase = .pascal →
    e.config.modelSchemaName m.name ∉ (e.relatedModels m).map completeTypeName
  schema_related :
    e.config.modelSchemaName m.name ∉ (e.otherModels m).map e.config.relatedSchemaName
  interface_related : e.config.relationMode = .default → e.config.modelCase = .pascal →
    ((e.completeModel m).map completeTypeName).Disjoint
      ((e.relatedModels m).map e.config.relatedSchemaName)
  related_interface : e.config.relationMode = .default → e.config.modelCase = .pascal →
    ((e.completeModel m).map e.config.relatedSchemaName).Disjoint
      ((e.otherModels m).map completeTypeName)
  /-- Enumerations of the database client keep their own names. -/
  enum_schema : e.config.useStandaloneEnums = false →
    e.config.modelSchemaName m.name ∉ e.enumReferences m
  enum_interface : e.config.useStandaloneEnums = false →
    (e.enumReferences m).Disjoint ((e.completeModel m).map completeTypeName)
  enum_related : (e.config.useStandaloneEnums = true → e.config.relationMode = .default ∨
      e.config.modelCase = .camel) →
    (e.enumReferences m).Disjoint ((e.completeModel m).map e.config.relatedSchemaName)
  enum_otherInterface : e.config.useStandaloneEnums = false → e.enumSource ≠ "./index" →
    (e.enumReferences m).Disjoint ((e.otherModels m).map completeTypeName)
  enum_otherRelated : (e.config.useStandaloneEnums = true → e.config.relationMode = .default ∨
      e.config.modelCase = .camel) → e.enumSource ≠ "./index" →
    (e.enumReferences m).Disjoint ((e.otherModels m).map e.config.relatedSchemaName)

theorem AreApart.hasNoLocalClash (h : AreApart e m) : HasNoLocalClash e m where
  fixed_schema := fun _ => h.fixed_schema
  fixed_related := fun _ => h.fixed_related
  fixed_enum := h.fixed_enum
  schema_interface := fun _ _ => h.schema_interface
  schema_related := h.schema_related
  interface_related := fun _ _ => h.interface_related
  related_interface := fun _ _ => h.related_interface
  enum_schema := fun _ => h.enum_schema
  enum_interface := fun _ => h.enum_interface
  enum_related := fun _ => h.enum_related
  enum_otherInterface := fun _ => h.enum_otherInterface
  enum_otherRelated := fun _ => h.enum_otherRelated

section

variable {d : DataModel} (hw : (Check.reportOf (Check.findings d e.config)).warnings = [])
  (hm : m ∈ d.models)

include hw hm

theorem mem_otherModels {n : Text} (hn : n ∈ e.otherModels m) :
    n ≠ m.name ∧ n ∈ d.modelNames := by
  unfold otherModels at hn
  obtain ⟨-, hn⟩ := List.mem_ite_nil_right.1 hn
  obtain ⟨f, hf, rfl⟩ := List.mem_map.1 hn
  obtain ⟨hf, hother⟩ := List.mem_filter.1 hf
  obtain ⟨hf, hk⟩ := List.mem_filter.1 hf
  exact ⟨of_decide_eq_true hother,
    (Check.declared_of_warnings_eq_nil hw hm hf).1 (of_decide_eq_true hk)⟩

theorem mem_relatedModels {n : Text} (hn : n ∈ e.relatedModels m) : n ∈ d.modelNames := by
  rcases List.mem_append.1 hn with hn | hn
  · rw [List.mem_singleton.1 (List.mem_ite_nil_right.1 hn).2]
    exact List.mem_map_of_mem hm
  · exact (mem_otherModels hw hm hn).2

theorem mem_enumReferences {x : Text} (hx : x ∈ e.enumReferences m) :
    ∃ n ∈ d.enumNames, x = enumReference e.config n := by
  obtain ⟨f, hf, rfl⟩ := List.mem_map.1 hx
  obtain ⟨hf, hk⟩ := List.mem_filter.1 hf
  exact ⟨f.type, (Check.declared_of_warnings_eq_nil hw hm hf).2 (of_decide_eq_true hk), rfl⟩

end

theorem fixed_schema (hc : HasNoLocalClash e m) :
    e.config.modelSchemaName m.name ∉ e.fixedNames m := by
  by_cases hmode : e.config.relationMode = .default
  · unfold Config.modelSchemaName
    rw [if_pos hmode]
    exact not_mem_fixedNames (by decide) _
  · exact hc.fixed_schema hmode

theorem fixed_interface (e : Emitter) (m : Model) :
    (e.fixedNames m).Disjoint ((e.relatedModels m).map completeTypeName) := by
  intro x hx hx'
  obtain ⟨n, -, rfl⟩ := List.mem_map.1 hx'
  exact not_mem_fixedNames (c := 'C') (by decide) _ hx

theorem fixed_related (hc : HasNoLocalClash e m) :
    (e.fixedNames m).Disjoint ((e.relatedModels m).map e.config.relatedSchemaName) := by
  by_cases hmode : e.config.relationMode = .default
  · exact hc.fixed_related hmode
  · intro x hx hx'
    obtain ⟨n, -, rfl⟩ := List.mem_map.1 hx'
    unfold Config.relatedSchemaName at hx
    rw [if_neg hmode, schemaName_related] at hx
    cases hcase : e.config.modelCase <;> rw [hcase] at hx
    · exact not_mem_fixedNames (c := 'R') (by decide) _ hx
    · exact not_mem_fixedNames (c := 'r') (by decide) _ hx

/-- Enumerations that stand on their own begin in lower case, and interfaces do not. -/
theorem enum_interfaces {ns : List Text} (hc : e.config.useStandaloneEnums = false →
      (e.enumReferences m).Disjoint (ns.map completeTypeName)) :
    (e.enumReferences m).Disjoint (ns.map completeTypeName) := by
  cases hs : e.config.useStandaloneEnums with
  | false => exact hc hs
  | true =>
    refine disjoint_map fun f _ n _ he => ?_
    rw [enumReference, if_pos hs] at he
    exact completeTypeName_ne_enumSchemaName _ _ he.symm

/-- With the word `Related` in front, neither do schemas with relations. -/
theorem enum_relatedSchemas {ns : List Text} (hc : (e.config.useStandaloneEnums = true →
        e.config.relationMode = .default ∨ e.config.modelCase = .camel) →
      (e.enumReferences m).Disjoint (ns.map e.config.relatedSchemaName)) :
    (e.enumReferences m).Disjoint (ns.map e.config.relatedSchemaName) := by
  by_cases hguard : e.config.useStandaloneEnums = true →
      e.config.relationMode = .default ∨ e.config.modelCase = .camel
  · exact hc hguard
  · obtain ⟨hs, hneither⟩ := Classical.not_imp.1 hguard
    obtain ⟨hmode, hcase⟩ := not_or.1 hneither
    refine disjoint_map fun f _ n _ he => ?_
    rw [enumReference, if_pos hs] at he
    exact relatedSchemaName_ne_enumSchemaName hmode (NameCase.eq_pascal hcase) _ _ he.symm

theorem eq_of_mem_completeModel {n : Text} (hn : n ∈ e.completeModel m) : n = m.name :=
  List.mem_singleton.1 (List.mem_ite_nil_right.1 hn).2

section

variable {d : DataModel} (h : Check.IsSound d e.config)
  (hw : (Check.reportOf (Check.findings d e.config)).warnings = []) (hm : m ∈ d.models)

include h hm

theorem schema_interface (hc : HasNoLocalClash e m) :
    e.config.modelSchemaName m.name ∉ (e.relatedModels m).map completeTypeName := by
  by_cases hmode : e.config.relationMode ≠ .default → e.config.modelCase = .camel
  · intro hx
    obtain ⟨n, -, hn⟩ := List.mem_map.1 hx
    have hne : m.name ≠ [] := fun hnil =>
      absurd (h.accepted _ (List.mem_map_of_mem hm)) (by rw [hnil]; decide)
    exact modelSchemaName_ne_completeTypeName hne hmode n hn.symm
  · obtain ⟨hmode, hcase⟩ := Classical.not_imp.1 hmode
    exact hc.schema_interface hmode (NameCase.eq_pascal hcase)

include hw

theorem ne_nil_of_mem_relatedModels {n : Text} (hn : n ∈ e.relatedModels m) : n ≠ [] := by
  rintro rfl
  exact absurd (h.accepted _ (mem_relatedModels hw hm hn)) (by decide)

theorem interface_related (hc : HasNoLocalClash e m) :
    ((e.completeModel m).map completeTypeName).Disjoint
      ((e.relatedModels m).map e.config.relatedSchemaName) := by
  by_cases hmode : e.config.relationMode = .default → e.config.modelCase = .camel
  · exact disjoint_map fun n _ k hk =>
      (relatedSchemaName_ne_completeTypeName (ne_nil_of_mem_relatedModels h hw hm hk) hmode n).symm
  · obtain ⟨hmode, hcase⟩ := Classical.not_imp.1 hmode
    exact hc.interface_related hmode (NameCase.eq_pascal hcase)

theorem related_interface (hc : HasNoLocalClash e m) :
    ((e.completeModel m).map e.config.relatedSchemaName).Disjoint
      ((e.otherModels m).map completeTypeName) := by
  by_cases hmode : e.config.relationMode = .default → e.config.modelCase = .camel
  · refine disjoint_map fun n hn k _ => relatedSchemaName_ne_completeTypeName ?_ hmode k
    exact ne_nil_of_mem_relatedModels h hw hm (List.mem_append_left _ hn)
  · obtain ⟨hmode, hcase⟩ := Classical.not_imp.1 hmode
    exact hc.related_interface hmode (NameCase.eq_pascal hcase)

theorem enum_schema (hc : HasNoLocalClash e m) :
    e.config.modelSchemaName m.name ∉ e.enumReferences m := by
  cases hs : e.config.useStandaloneEnums with
  | false => exact hc.enum_schema hs
  | true =>
    intro hx
    obtain ⟨n, hn, hx⟩ := mem_enumReferences hw hm hx
    rw [enumReference, if_pos hs] at hx
    obtain ⟨k, hk, -⟩ := List.mem_map.1 hn
    have hstand : Check.enumsStandAlone d e.config = true := by
      rw [Check.enumsStandAlone, hs, List.isEmpty_eq_false_iff.2 (List.ne_nil_of_mem hk)]
      rfl
    exact h.schemasApart hstand _ (List.mem_map_of_mem hm) n hn hx

theorem areApart (hc : HasNoLocalClash e m) : AreApart e m where
  fixed_schema := fixed_schema hc
  fixed_interface := fixed_interface e m
  fixed_related := fixed_related hc
  fixed_enum := hc.fixed_enum
  schema_interface := schema_interface h hm hc
  schema_own := by
    intro hx
    obtain ⟨n, hn, hx⟩ := List.mem_map.1 hx
    rw [eq_of_mem_completeModel hn] at hx
    exact modelSchemaName_ne_relatedSchemaName (h.accepted _ (List.mem_map_of_mem hm)) hx.symm
  schema_related := hc.schema_related
  interface_related := interface_related h hw hm hc
  interface_other := by
    refine disjoint_map fun n hn k hk he => (mem_otherModels hw hm hk).1 ?_
    rw [← completeTypeName_injective he, eq_of_mem_completeModel hn]
  related_interface := related_interface h hw hm hc
  related_other := by
    refine disjoint_map fun n hn k hk => ?_
    obtain ⟨hne, hk⟩ := mem_otherModels hw hm hk
    rw [eq_of_mem_completeModel hn]
    exact relatedSchemaName_ne hne.symm (h.schemas _ (List.mem_map_of_mem hm) k hk hne.symm)
  enum_schema := enum_schema h hw hm hc
  enum_interface := enum_interfaces hc.enum_interface
  enum_related := enum_relatedSchemas hc.enum_related
  enum_otherInterface := fun hs => enum_interfaces fun hclient => hc.enum_otherInterface hclient hs
  enum_otherRelated := fun hs => enum_relatedSchemas fun hguard => hc.enum_otherRelated hguard hs

end

/-- **The names of one module.**  In a valid run without warnings, the module of a model binds no
name twice exactly if the names are different that the check does not compare. -/
theorem nodup_bound_iff {d : DataModel}
    (h : (Check.reportOf (Check.findings d e.config)).isValid = true)
    (hw : (Check.reportOf (Check.findings d e.config)).warnings = []) (hm : m ∈ d.models) :
    (moduleFileName m.name, joinSections (e.outline m).render) ∈ e.generate d ∧
      ((e.outline m).bound.Nodup ↔ HasNoLocalClash e m) := by
  constructor
  · rw [generate_eq_outlineFiles h]
    refine List.mem_cons_of_mem _ (List.mem_map.2 ⟨(moduleFileName m.name, e.outline m), ?_, rfl⟩)
    exact List.mem_append_right _ (List.mem_map_of_mem hm)
  · rw [nodup_bound_iff_areApart]
    exact ⟨AreApart.hasNoLocalClash, areApart (Check.isValid_iff_isSound.1 h) hw hm⟩

/-- A model with a related one, an enumeration, and both helpers. -/
theorem nodup_bound_user :
    let user : Model := { name := "User", fields :=
      [{ name := "role", kind := .enum, type := "Role" }, { name := "price", type := "Decimal" },
        { name := "extra", type := "Json" },
        { name := "posts", kind := .relation, type := "Post", isList := true }] }
    let post : Model := { name := "Post", fields := [{ name := "id", type := "Int" }] }
    let e : Emitter := ⟨{}, .empty, "@prisma/client", none⟩
    let d : DataModel := ⟨[user, post], [⟨"Role", ["ADMIN"]⟩]⟩
    (Check.reportOf (Check.findings d e.config)).isValid = true ∧
      (Check.reportOf (Check.findings d e.config)).warnings = [] ∧ user ∈ d.models ∧
      (e.outline user).bound.length = 13 ∧ HasNoLocalClash e user := by
  intro user post e d
  have h : (Check.reportOf (Check.findings d e.config)).isValid = true := by decide +kernel
  have hw : (Check.reportOf (Check.findings d e.config)).warnings = [] := by decide +kernel
  have hnodup : (e.outline user).bound.Nodup := by decide +kernel
  have hm : user ∈ d.models := List.mem_cons_self
  exact ⟨h, hw, hm, by decide +kernel, (nodup_bound_iff h hw hm).2.1 hnodup⟩

/-- The word in front makes the name of a schema that the module imports into that of its own. -/
theorem not_nodup_bound :
    let other : Field := { name := "other", kind := .relation, type := "RelatedUser" }
    let back : Field := { name := "user", kind := .relation, type := "User" }
    let user : Model := { name := "User", fields := [other] }
    let related : Model := { name := "RelatedUser", fields := [back] }
    let e : Emitter := ⟨{}, .empty, "@prisma/client", none⟩
    let d : DataModel := ⟨[user, related], []⟩
    (Check.reportOf (Check.findings d e.config)).isValid = true ∧
      (Check.reportOf (Check.findings d e.config)).warnings = [] ∧ related ∈ d.models ∧
      ("RelatedUserModel" : Text) ∈ (e.outline related).importedFrom "./index" ∧
      (Kind.const, ("RelatedUserModel" : Text)) ∈ (e.outline related).exported ∧
      ¬ (e.outline related).bound.Nodup := by
  intro other back user related e d
  exact ⟨by decide +kernel, by decide +kernel, by decide +kernel, by decide +kernel,
    by decide +kernel, by decide +kernel⟩

end ValidatorGen.Emitter
