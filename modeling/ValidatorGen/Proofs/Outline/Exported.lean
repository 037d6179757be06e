import Mathlib.Data.List.Perm.Basic
import ValidatorGen.Proofs.Naming
import ValidatorGen.Proofs.Outline.Run

/-!
# The names that a run exports

The check of a run compares the schemas of models and of enumerations.  A run exports more than
these: the schemas with relations, the interfaces, and the types of enumerations.

* `exportedNames_perm` — the exported names by family;
* `nodup_exportedNames_iff` — those of a valid run are distinct if the names are that the check does
  not compare.
-/

namespace ValidatorGen.Emitter

open Emit Outline

/-! ## Families of names -/

/-- The names of the enumerations that have a schema of their own. -/
def standaloneNames (e : Emitter) (d : DataModel) : List Text :=
  if e.emitsEnums d then d.enumNames else []

/-- The names of the models that have a schema with relations. -/
def completeNames (e : Emitter) (d : DataModel) : List Text :=
  (d.models.filter e.needsComplete).map (·.name)

def schemaNames (e : Emitter) (d : DataModel) : List Text :=
  d.modelNames.map e.config.modelSchemaName

def interfaceNames (e : Emitter) (d : DataModel) : List Text :=
  (e.completeNames d).map completeTypeName

def relatedSchemaNames (e : Emitter) (d : DataModel) : List Text :=
  (e.completeNames d).map e.config.relatedSchemaName

def enumSchemaNames (e : Emitter) (d : DataModel) : List Text :=
  (e.standaloneNames d).map enumSchemaName

def enumTypeNames (e : Emitter) (d : DataModel) : List Text :=
  (e.standaloneNames d).map enumTypeName

/-- The exported names, except those of the types of enumerations. -/
def untypedNames (e : Emitter) (d : DataModel) : List Text :=
  e.enumSchemaNames d ++ (e.schemaNames d ++ (e.interfaceNames d ++ e.relatedSchemaNames d))

variable {e : Emitter} {d : DataModel}

theorem exported_eq (e : Emitter) (d : DataModel) : e.exported d =
    ((e.standaloneNames d).flatMap fun n => [(.const, enumSchemaName n), (.type, enumTypeName n)])
      ++ d.models.flatMap fun m => (.const, e.config.modelSchemaName m.name)
        :: if e.needsComplete m then
            [(.interface, completeTypeName m.name), (.const, e.config.relatedSchemaName m.name)]
          else [] := by
  unfold exported outlines standaloneNames DataModel.enumNames
  dsimp only
  rw [List.flatMap_append, List.flatMap_map]
  congr 1
  · split_ifs
    · rw [List.flatMap_singleton, exported_enumsOutline, List.flatMap_map]
    · rfl
  · exact List.flatMap_congr fun m _ => exported_outline e m

theorem exportedNames_eq (e : Emitter) (d : DataModel) : e.exportedNames d =
    ((e.standaloneNames d).flatMap fun n => [enumSchemaName n, enumTypeName n])
      ++ d.models.flatMap fun m => e.config.modelSchemaName m.name
        :: if e.needsComplete m then
            [completeTypeName m.name, e.config.relatedSchemaName m.name]
          else [] := by
  unfold exportedNames
  rw [exported_eq, List.map_append, List.map_flatMap, List.map_flatMap]
  congr 1
  refine List.flatMap_congr fun m _ => ?_
  split_ifs <;> rfl

theorem flatMap_pair_perm {α : Type} (xs : List α) (f g : α → Text) :
    (xs.flatMap fun x => [f x, g x]).Perm (xs.map f ++ xs.map g) := by
  rw [List.map_eq_flatMap (f := g)]
  exact (List.map_append_flatMap_perm xs f fun x => [g x]).symm

theorem flatMap_completeNames {f : Text → List Text} :
    (d.models.flatMap fun m => if e.needsComplete m then f m.name else [])
      = (e.completeNames d).flatMap f := by
  unfold completeNames
  rw [List.flatMap_map]
  induction d.models with
  | nil => rfl
  | cons m ms ih =>
    rw [List.flatMap_cons, ih, List.filter_cons]
    split_ifs <;> rfl

/-- What a run exports, by family. -/
theorem exportedNames_perm (e : Emitter) (d : DataModel) :
    (e.exportedNames d).Perm (e.untypedNames d ++ e.enumTypeNames d) := by
  have henums := flatMap_pair_perm (e.standaloneNames d) enumSchemaName enumTypeName
  have hcomplete := flatMap_pair_perm (e.completeNames d) completeTypeName
    e.config.relatedSchemaName
  have hmodels := (List.map_append_flatMap_perm d.models
    (fun m => e.config.modelSchemaName m.name) fun m => if e.needsComplete m then
      [completeTypeName m.name, e.config.relatedSchemaName m.name] else []).symm
  rw [flatMap_completeNames (f := fun n => [completeTypeName n, e.config.relatedSchemaName n])]
    at hmodels
  rw [exportedNames_eq]
  refine (henums.append (hmodels.trans (hcomplete.append_left _))).trans ?_
  unfold untypedNames schemaNames DataModel.modelNames
  rw [List.map_map, List.append_assoc, List.append_assoc]
  exact List.perm_append_comm.append_left _

/-! ## Clashes -/

/-- The names that the check of a run does not compare are different. -/
structure HasNoHiddenClash (e : Emitter) (d : DataModel) : Prop where
  schema_interface : (e.schemaNames d).Disjoint (e.interfaceNames d)
  schema_related : (e.schemaNames d).Disjoint (e.relatedSchemaNames d)
  enum_related : e.config.relationMode = .default ∨ e.config.modelCase = .camel →
    (e.enumSchemaNames d).Disjoint (e.relatedSchemaNames d)
  interface_related : e.config.relationMode = .default → e.config.modelCase = .pascal →
    (e.interfaceNames d).Disjoint (e.relatedSchemaNames d)
  types : (e.enumTypeNames d).Nodup
  untyped_types : (e.untypedNames d).Disjoint (e.enumTypeNames d)

theorem disjoint_map {α β : Type} {xs : List α} {ys : List β} {f : α → Text} {g : β → Text}
    (h : ∀ x ∈ xs, ∀ y ∈ ys, f x ≠ g y) : (xs.map f).Disjoint (ys.map g) := by
  intro n hf hg
  obtain ⟨x, hx, rfl⟩ := List.mem_map.1 hf
  obtain ⟨y, hy, he⟩ := List.mem_map.1 hg
  exact h x hx y hy he.symm

theorem mem_modelNames_of_mem_completeNames {n : Text} (hn : n ∈ e.completeNames d) :
    n ∈ d.modelNames := by
  obtain ⟨m, hm, rfl⟩ := List.mem_map.1 hn
  exact List.mem_map_of_mem (List.mem_filter.1 hm).1

theorem mem_standaloneNames {n : Text} : n ∈ e.standaloneNames d ↔
    Check.enumsStandAlone d e.config = true ∧ n ∈ d.enumNames := List.mem_ite_nil_right

section

variable (h : Check.IsSound d e.config)

include h

theorem ne_nil_of_mem_completeNames {n : Text} (hn : n ∈ e.completeNames d) : n ≠ [] := by
  rintro rfl
  exact absurd (h.accepted _ (mem_modelNames_of_mem_completeNames hn)) (by decide)

theorem nodup_completeNames : (e.completeNames d).Nodup :=
  h.models.sublist (List.filter_sublist.map _)

theorem nodup_schemaNames : (e.schemaNames d).Nodup :=
  h.models.map_on fun m hm n hn he => by
    by_contra hne
    exact h.schemas m hm n hn hne he

theorem nodup_relatedSchemaNames : (e.relatedSchemaNames d).Nodup :=
  (nodup_completeNames h).map_on fun m hm n hn he => by
    by_contra hne
    refine relatedSchemaName_ne hne (h.schemas m ?_ n ?_ hne) he
    · exact mem_modelNames_of_mem_completeNames hm
    · exact mem_modelNames_of_mem_completeNames hn

theorem nodup_enumSchemaNames : (e.enumSchemaNames d).Nodup := by
  have hnodup : (e.standaloneNames d).Nodup := by
    unfold standaloneNames
    split_ifs
    · exact h.enums
    · exact List.nodup_nil
  refine hnodup.map_on fun m hm n hn he => ?_
  obtain ⟨hs, hm⟩ := mem_standaloneNames.1 hm
  obtain ⟨-, hn⟩ := mem_standaloneNames.1 hn
  by_contra hne
  exact h.enumSchemas hs m hm n hn hne he

theorem disjoint_enum_schema : (e.enumSchemaNames d).Disjoint (e.schemaNames d) := by
  refine disjoint_map fun n hn m hm he => ?_
  obtain ⟨hs, hn⟩ := mem_standaloneNames.1 hn
  exact h.schemasApart hs m hm n hn he.symm

omit h in
theorem disjoint_enum_interface : (e.enumSchemaNames d).Disjoint (e.interfaceNames d) :=
  disjoint_map fun n _ m _ => (completeTypeName_ne_enumSchemaName m n).symm

omit h in
theorem disjoint_enum_related (hc : HasNoHiddenClash e d) :
    (e.enumSchemaNames d).Disjoint (e.relatedSchemaNames d) := by
  by_cases hmode : e.config.relationMode = .default ∨ e.config.modelCase = .camel
  · exact hc.enum_related hmode
  · -- the word `Related` in front begins with a capital letter, and no enumeration does
    obtain ⟨hmode, hcase⟩ := not_or.1 hmode
    exact disjoint_map fun n _ m _ =>
      (relatedSchemaName_ne_enumSchemaName hmode (NameCase.eq_pascal hcase) m n).symm

theorem disjoint_interface_related (hc : HasNoHiddenClash e d) :
    (e.interfaceNames d).Disjoint (e.relatedSchemaNames d) := by
  by_cases hmode : e.config.relationMode = .default → e.config.modelCase = .camel
  · exact disjoint_map fun n _ m hm =>
      (relatedSchemaName_ne_completeTypeName (ne_nil_of_mem_completeNames h hm) hmode n).symm
  · obtain ⟨hmode, hcase⟩ := Classical.not_imp.1 hmode
    exact hc.interface_related hmode (NameCase.eq_pascal hcase)

/-- The families are put together one by one, the types of enumerations last. -/
theorem nodup_exportedNames (hc : HasNoHiddenClash e d) : (e.exportedNames d).Nodup := by
  have hinterfaces : (e.interfaceNames d).Nodup :=
    (nodup_completeNames h).map completeTypeName_injective
  have hcomplete := List.nodup_append'.2
    ⟨hinterfaces, nodup_relatedSchemaNames h, disjoint_interface_related h hc⟩
  have hmodels := List.nodup_append'.2 ⟨nodup_schemaNames h, hcomplete,
    List.disjoint_append_right.2 ⟨hc.schema_interface, hc.schema_related⟩⟩
  have huntyped : (e.untypedNames d).Nodup := List.nodup_append'.2
    ⟨nodup_enumSchemaNames h, hmodels, List.disjoint_append_right.2 ⟨disjoint_enum_schema h,
      List.disjoint_append_right.2 ⟨disjoint_enum_interface, disjoint_enum_related hc⟩⟩⟩
  exact (exportedNames_perm e d).nodup_iff.2
    (List.nodup_append'.2 ⟨huntyped, hc.types, hc.untyped_types⟩)

end

theorem hasNoHiddenClash_of_nodup (h : (e.exportedNames d).Nodup) : HasNoHiddenClash e d := by
  obtain ⟨huntyped, htypes, huntypedTypes⟩ :=
    List.nodup_append'.1 ((exportedNames_perm e d).nodup_iff.1 h)
  obtain ⟨-, hmodels, henums⟩ := List.nodup_append'.1 huntyped
  obtain ⟨-, hcomplete, hschemas⟩ := List.nodup_append'.1 hmodels
  obtain ⟨-, -, hinterfaces⟩ := List.nodup_append'.1 hcomplete
  obtain ⟨hschemaInterface, hschemaRelated⟩ := List.disjoint_append_right.1 hschemas
  have henumRelated := (List.disjoint_append_right.1 (List.disjoint_append_right.1 henums).2).2
  exact {
    schema_interface := hschemaInterface
    schema_related := hschemaRelated
    enum_related := fun _ => henumRelated
    interface_related := fun _ _ => hinterfaces
    types := htypes
    untyped_types := huntypedTypes }

/-- **The exported names of a valid run** are distinct, over all its modules, exactly if the names
are that the check does not compare; and then the index exports none of them from two modules. -/
theorem nodup_exportedNames_iff
    (h : (Check.reportOf (Check.findings d e.config)).isValid = true) :
    e.generate d = (("index.ts" : Text), indexModule d.models (e.emitsEnums d))
        :: e.outlineFiles d ∧
      ((e.exportedNames d).Nodup ↔ HasNoHiddenClash e d) ∧
      (HasNoHiddenClash e d → (e.outlines d).Pairwise fun o p =>
        (o.2.exported.map (·.2)).Disjoint (p.2.exported.map (·.2))) := by
  have hsound := Check.isValid_iff_isSound.1 h
  refine ⟨generate_eq_outlineFiles h, ⟨hasNoHiddenClash_of_nodup, nodup_exportedNames hsound⟩,
    fun hc => ?_⟩
  have hnodup := nodup_exportedNames hsound hc
  unfold exportedNames exported at hnodup
  rw [List.map_flatMap] at hnodup
  exact (List.nodup_flatMap.1 hnodup).2

/-- Two models that refer to each other, and an enumeration that stands on its own. -/
theorem nodup_exportedNames_blog :
    let posts : Field := { name := "posts", kind := .relation, type := "Post", isList := true }
    let author : Field := { name := "author", kind := .relation, type := "User" }
    let e : Emitter := ⟨{ useStandaloneEnums := true }, .empty, "@prisma/client", none⟩
    let d : DataModel :=
      ⟨[{ name := "User", fields := [posts] }, { name := "Post", fields := [author] }],
        [⟨"Role", ["ADMIN"]⟩]⟩
    (Check.reportOf (Check.findings d e.config)).isValid = true ∧
      (e.exportedNames d).length = 8 ∧ HasNoHiddenClash e d := by
  intro posts author e d
  have h : (Check.reportOf (Check.findings d e.config)).isValid = true := by decide +kernel
  have hnodup : (e.exportedNames d).Nodup := by decide +kernel
  exact ⟨h, by decide +kernel, (nodup_exportedNames_iff h).2.1.1 hnodup⟩

/-- The word in front of the one schema makes the name of the other one. -/
theorem not_nodup_exportedNames :
    let self : Field := { name := "self", kind := .relation, type := "User", isRequired := false }
    let user : Model := { name := "User", fields := [self] }
    let related : Model := { name := "RelatedUser", fields := [{ name := "id", type := "Int" }] }
    let e : Emitter := ⟨{}, .empty, "@prisma/client", none⟩
    let d : DataModel := ⟨[user, related], []⟩
    (Check.reportOf (Check.findings d e.config)).isValid = true ∧
      (Kind.const, ("RelatedUserModel" : Text)) ∈ (e.outline user).exported ∧
      (Kind.const, ("RelatedUserModel" : Text)) ∈ (e.outline related).exported ∧
      ¬ (e.exportedNames d).Nodup := by
  intro self user related e d
  exact ⟨by decide +kernel, by decide +kernel, by decide +kernel, by decide +kernel⟩

end ValidatorGen.Emitter
