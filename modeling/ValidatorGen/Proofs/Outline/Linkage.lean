import ValidatorGen.Proofs.Imports
import ValidatorGen.Proofs.Outline.Reference

/-!
# What a module takes and gives

* `mem_importedFrom_iff` — what the module of a model imports from other modules, and for which of
  its fields; `mem_takenFrom_outline` adds the modules that it imports as a whole;
* `exported_outline` — what it exports.
-/

namespace ValidatorGen.Emitter

open Emit Outline

variable {e : Emitter} {m : Model}

/-! ## Sections -/

section

variable {α : Type} {f : Piece → Option α} (ht : ∀ s, f (.text s) = none)
  (hr : ∀ u x, f (.refers u x) = none)

include ht hr

/-- A reading that passes over references finds nothing in the properties of a schema. -/
theorem collect_flatMap_propertyLines {use : Use} {fs : List Field} {native? : Field → Option Text}
    {default? : Field → Option Literal} {c : Config} {related : Text → Text} :
    collect f (fs.flatMap fun x => propertyLines use x (native? x) (default? x) c related) = [] := by
  refine collect_eq_nil fun l hl p hp => ?_
  obtain ⟨x, -, hl⟩ := List.mem_flatMap.1 hl
  rcases mem_propertyLines hl hp with ⟨s, rfl⟩ | ⟨y, -, rfl⟩
  · exact ht s
  · exact hr use y

theorem collect_scalarSection : collect f (e.scalarSection m)
    = (f (.declares true .const (e.config.modelSchemaName m.name))).toList := by
  unfold scalarSection
  rw [collect_append, collect_append, collect_append, collect_plain ht, collect_indent ht,
    collect_flatMap_propertyLines ht hr]
  cases hd : f (.declares true .const (e.config.modelSchemaName m.name)) <;>
    simp [collect, ht, hr, hd]

theorem collect_interfaceSection : collect f (e.interfaceSection m)
    = (f (.declares true .interface (completeTypeName m.name))).toList := by
  have hbody : collect f (m.relationFields.map interfaceLine) = [] := by
    refine collect_eq_nil fun l hl p hp => ?_
    obtain ⟨x, -, rfl⟩ := List.mem_map.1 hl
    simp only [interfaceLine, List.mem_cons, List.not_mem_nil, or_false] at hp
    rcases hp with rfl | rfl | rfl
    · exact ht _
    · exact hr _ _
    · exact ht _
  unfold interfaceSection
  rw [collect_append, collect_append, collect_indent ht, hbody]
  cases hd : f (.declares true .interface (completeTypeName m.name)) <;>
    simp [collect, ht, hr, hd]

theorem collect_completeSection : collect f (e.completeSection m)
    = (f (.declares true .const (e.config.relatedSchemaName m.name))).toList := by
  unfold completeSection
  dsimp only
  rw [collect_append, collect_append, collect_indent ht, collect_flatMap_propertyLines ht hr]
  cases hd : f (.declares true .const (e.config.relatedSchemaName m.name)) <;>
    simp [collect, ht, hr, hd]

/-- The helpers are not exported. -/
theorem collect_helperSections (hd : ∀ k x, f (.declares false k x) = none) {ls : List Line}
    (hls : ls ∈ e.helperSections m) : collect f ls = [] := by
  rcases List.mem_append.1 hls with hls | hls
  · rw [List.mem_singleton.1 (List.mem_ite_nil_right.1 hls).2]
    cases hn : e.config.prismaJsonNullability <;>
      simp [jsonHelperLines, collect, ht, hr, hd, hn]
  · rw [List.mem_singleton.1 (List.mem_ite_nil_right.1 hls).2]
    simp [decimalHelperLines, collect, ht, hr, hd]

/-- The sections of the outline: imports, helpers that are passed over, and declarations. -/
theorem flatMap_collect_outline (hd : ∀ k x, f (.declares false k x) = none) :
    (e.outline m).flatMap (collect f) = collect f (e.importSection m)
      ++ ((f (.declares true .const (e.config.modelSchemaName m.name))).toList
        ++ if e.needsComplete m then
            (f (.declares true .interface (completeTypeName m.name))).toList
              ++ (f (.declares true .const (e.config.relatedSchemaName m.name))).toList
          else []) := by
  have hhelpers : (e.helperSections m).flatMap (collect f) = [] :=
    List.flatMap_eq_nil_iff.2 fun ls hls => collect_helperSections ht hr hd hls
  unfold outline
  rw [List.flatMap_append, List.flatMap_cons, List.flatMap_cons, hhelpers, List.append_nil,
    collect_scalarSection ht hr]
  split_ifs
  · rw [List.flatMap_cons, List.flatMap_cons, collect_interfaceSection ht hr,
      collect_completeSection ht hr, List.flatMap_nil, List.append_nil]
  · rfl

end

/-! ## Exports -/

theorem exported_outline (e : Emitter) (m : Model) :
    (e.outline m).exported = (.const, e.config.modelSchemaName m.name)
      :: if e.needsComplete m then
          [(.interface, completeTypeName m.name), (.const, e.config.relatedSchemaName m.name)]
        else [] := by
  have h := flatMap_collect_outline (e := e) (m := m) (f := Piece.exported?) (fun _ => rfl)
    (fun _ _ => rfl) fun _ _ => rfl
  have himports : collect Piece.exported? (e.importSection m) = [] :=
    collect_importSection (fun _ _ => rfl) fun _ _ => rfl
  rw [himports] at h
  exact h

/-! ## Imports -/

/-- The module of this model imports a name, `IsImported e m module name`. -/
inductive IsImported (e : Emitter) (m : Model) : Text → Text → Prop
  | decimal (h : e.usesDecimal m = true) : IsImported e m "decimal.js" "Decimal"
  | enumSchema {f : Field} (h : e.config.useStandaloneEnums = true) (hf : f ∈ m.enumFields) :
    IsImported e m "./enums" (enumSchemaName f.type)
  | clientEnum {f : Field} (h : e.config.useStandaloneEnums = false) (hf : f ∈ m.enumFields) :
    IsImported e m e.clientModule f.type
  | interface {f : Field} (h : e.needsComplete m = true) (hf : f ∈ m.relationFields)
    (hother : f.type ≠ m.name) : IsImported e m "./index" (completeTypeName f.type)
  | relatedSchema {f : Field} (h : e.needsComplete m = true) (hf : f ∈ m.relationFields)
    (hother : f.type ≠ m.name) : IsImported e m "./index" (e.config.relatedSchemaName f.type)

theorem isImported_of_mem_enumImports {i : Text × List Text} {x : Text} (hi : i ∈ e.enumImports m)
    (hx : x ∈ i.2) : IsImported e m i.1 x := by
  unfold enumImports at hi
  split_ifs at hi with hnone hs
  · exact absurd hi (by simp)
  · rw [List.mem_singleton.1 hi] at hx ⊢
    obtain ⟨f, hf, rfl⟩ := List.mem_map.1 hx
    exact .enumSchema hs hf
  · rw [List.mem_singleton.1 hi] at hx ⊢
    obtain ⟨f, hf, rfl⟩ := List.mem_map.1 hx
    exact .clientEnum (by simpa using hs) hf

theorem isImported_of_mem_relationImports {i : Text × List Text} {x : Text}
    (hi : i ∈ e.relationImports m) (hx : x ∈ i.2) : IsImported e m i.1 x := by
  unfold relationImports at hi
  dsimp only at hi
  obtain ⟨hn, hi⟩ := List.mem_ite_nil_right.1 hi
  rw [List.mem_singleton.1 hi] at hx ⊢
  obtain ⟨f, hf, hx⟩ := List.mem_flatMap.1 hx
  obtain ⟨hf, hother⟩ := List.mem_filter.1 hf
  simp only [List.mem_cons, List.not_mem_nil, or_false] at hx
  have hn : e.needsComplete m = true := ((Bool.and_eq_true _ _).mp hn).1
  rcases hx with rfl | rfl
  · exact .interface hn hf (by simpa using hother)
  · exact .relatedSchema hn hf (by simpa using hother)

/-- The group of imports for the helper for decimals. -/
def decimalImports (e : Emitter) (m : Model) : Imports :=
  if e.usesDecimal m then [("decimal.js", ["Decimal"])] else []

theorem importedIn_importSection :
    importedIn (e.importSection m) = e.decimalImports m ++ e.namedImports m := by
  have hnamespaces : collect Piece.imported? ([.importsAll "z" e.config.zodImport]
      :: (e.importsModule?.map fun i => [.importsAll "imports" i]).toList) = [] := by
    cases e.importsModule? <;> rfl
  have hnamed : collect Piece.imported? ((e.namedImports m).map fun i => [.imports i.2 i.1])
      = e.namedImports m := by
    unfold collect
    induction e.namedImports m with
    | nil => rfl
    | cons i is ih => rw [List.map_cons, List.flatten_cons, List.filterMap_append, ih]; rfl
  unfold importedIn importSection decimalImports
  rw [collect_append, collect_append, hnamespaces, hnamed, List.nil_append]
  split_ifs <;> rfl

theorem importedIn_outline (e : Emitter) (m : Model) :
    (e.outline m).flatMap importedIn = e.decimalImports m ++ e.namedImports m := by
  have h := flatMap_collect_outline (e := e) (m := m) (f := Piece.imported?) (fun _ => rfl)
    (fun _ _ => rfl) fun _ _ => rfl
  have hrest : (([] : Imports) ++ if e.needsComplete m then [] ++ [] else []) = [] := by
    split_ifs <;> rfl
  rw [← importedIn_importSection, ← List.append_nil (importedIn _), ← hrest]
  exact h

theorem isImported_of_mem_importedFrom {s x : Text} (h : x ∈ (e.outline m).importedFrom s) :
    IsImported e m s x := by
  obtain ⟨names, hi, hx⟩ := Module.mem_importedFrom.1 h
  rw [importedIn_outline] at hi
  rcases List.mem_append.1 hi with hi | hi
  · obtain ⟨hu, hi⟩ := List.mem_ite_nil_right.1 hi
    cases List.mem_singleton.1 hi
    rw [List.mem_singleton.1 hx]
    exact .decimal hu
  · obtain ⟨g, hg, j, hj, hji, hx⟩ := exists_group_of_mem_mergeImports hi hx
    obtain rfl : j.1 = s := hji
    simp only [List.mem_cons, List.not_mem_nil, or_false] at hg
    rcases hg with rfl | rfl
    · exact isImported_of_mem_enumImports hj hx
    · exact isImported_of_mem_relationImports hj hx

/-- A name in a group of imports is imported by the statement for its module. -/
theorem mem_importedFrom_of_group {g : Imports} {i : Text × List Text} {x : Text}
    (hg : g ∈ [e.enumImports m, e.relationImports m]) (hi : i ∈ g) (hx : x ∈ i.2) :
    x ∈ (e.outline m).importedFrom i.1 := by
  obtain ⟨names, hnames, hx⟩ := exists_mem_mergeImports hg hi hx
  refine Module.mem_importedFrom.2 ⟨names, ?_, hx⟩
  rw [importedIn_outline]
  exact List.mem_append_right _ hnames

/-- What a relation to another model needs is imported from the index. -/
theorem mem_importedFrom_of_related (hn : e.needsComplete m = true) {f : Field}
    (hf : f ∈ m.relationFields) (hother : f.type ≠ m.name) {x : Text}
    (hx : x = completeTypeName f.type ∨ x = e.config.relatedSchemaName f.type) :
    x ∈ (e.outline m).importedFrom "./index" := by
  have hx : x ∈ e.relatedNames m := by
    refine List.mem_flatMap.2 ⟨f, List.mem_filter.2 ⟨hf, by simpa using hother⟩, ?_⟩
    simpa using hx
  have hne : (e.relatedNames m).isEmpty = false :=
    List.isEmpty_eq_false_iff.2 (List.ne_nil_of_mem hx)
  have hg : e.relationImports m = [(("./index" : Text), e.relatedNames m)] := by
    unfold relationImports
    dsimp only
    rw [hn, hne, Bool.not_false, Bool.and_self, if_pos rfl]
  exact mem_importedFrom_of_group (i := ("./index", e.relatedNames m))
    (List.mem_cons_of_mem _ List.mem_cons_self) (hg ▸ List.mem_singleton_self _) hx

/-- The module that enumerations are imported from. -/
def enumSource (e : Emitter) : Text :=
  if e.config.useStandaloneEnums then "./enums" else e.clientModule

/-- The names that stand for the enumerations of a model's fields. -/
def enumReferences (e : Emitter) (m : Model) : List Text :=
  m.enumFields.map fun f => enumReference e.config f.type

theorem enumImports_eq (e : Emitter) (m : Model) : e.enumImports m =
    if m.enumFields.isEmpty then [] else [(e.enumSource, e.enumReferences m)] := by
  unfold enumImports enumSource enumReferences enumReference
  split_ifs <;> rfl

theorem mem_importedFrom_of_enum {f : Field} (hf : f ∈ m.enumFields) :
    enumReference e.config f.type ∈ (e.outline m).importedFrom e.enumSource := by
  have hne : m.enumFields.isEmpty = false :=
    List.isEmpty_eq_false_iff.2 (List.ne_nil_of_mem hf)
  have hg : e.enumImports m = [(e.enumSource, e.enumReferences m)] := by
    rw [enumImports_eq, hne, if_neg Bool.false_ne_true]
  exact mem_importedFrom_of_group (i := (e.enumSource, e.enumReferences m)) List.mem_cons_self
    (hg ▸ List.mem_singleton_self _) (List.mem_map_of_mem hf)

theorem mem_importedFrom_iff {s x : Text} :
    x ∈ (e.outline m).importedFrom s ↔ IsImported e m s x := by
  refine ⟨isImported_of_mem_importedFrom, fun h => ?_⟩
  cases h with
  | decimal h =>
    refine Module.mem_importedFrom.2 ⟨["Decimal"], ?_, by simp⟩
    rw [importedIn_outline, decimalImports, if_pos h]
    exact List.mem_append_left _ List.mem_cons_self
  | enumSchema h hf =>
    have himport := mem_importedFrom_of_enum (e := e) hf
    rwa [enumReference, enumSource, if_pos h, if_pos h] at himport
  | clientEnum h hf =>
    have himport := mem_importedFrom_of_enum (e := e) hf
    rwa [enumReference, enumSource, h, if_neg Bool.false_ne_true, if_neg Bool.false_ne_true]
      at himport
  | interface hn hf hother => exact mem_importedFrom_of_related hn hf hother (.inl rfl)
  | relatedSchema hn hf hother => exact mem_importedFrom_of_related hn hf hother (.inr rfl)

theorem importedAll_outline (e : Emitter) (m : Model) :
    (e.outline m).flatMap (collect Piece.importedAll?)
      = (e.config.zodImport, ("z" : Text))
        :: (e.importsModule?.map fun i => (i, ("imports" : Text))).toList := by
  have h := flatMap_collect_outline (e := e) (m := m) (f := Piece.importedAll?) (fun _ => rfl)
    (fun _ _ => rfl) fun _ _ => rfl
  have hnamed : collect Piece.importedAll? ((e.namedImports m).map fun i => [.imports i.2 i.1])
      = [] := by
    refine collect_eq_nil fun l hl p hp => ?_
    obtain ⟨i, -, rfl⟩ := List.mem_map.1 hl
    rw [List.mem_singleton.1 hp]
    rfl
  have himports : collect Piece.importedAll? (e.importSection m)
      = (e.config.zodImport, ("z" : Text))
        :: (e.importsModule?.map fun i => (i, ("imports" : Text))).toList := by
    unfold importSection
    rw [collect_append, collect_append, hnamed, List.append_nil]
    cases e.importsModule? <;> split_ifs <;> rfl
  rw [himports] at h
  rw [h]
  split_ifs <;> exact List.append_nil _

/-- Everything that the module of a model takes from others. -/
theorem mem_takenFrom_outline {s x : Text} : x ∈ (e.outline m).takenFrom s ↔
    (e.config.zodImport = s ∧ x = "z") ∨ (e.importsModule? = some s ∧ x = "imports") ∨
      IsImported e m s x := by
  unfold Module.takenFrom
  rw [List.mem_append, mem_importedFrom_iff, importedAll_outline, ← or_assoc]
  refine or_congr_left ?_
  cases e.importsModule? with
  | none => by_cases hz : e.config.zodImport = s <;> simp [hz]
  | some i => by_cases hz : e.config.zodImport = s <;> by_cases hi : i = s <;> simp [hz, hi]

end ValidatorGen.Emitter
