import ValidatorGen.Proofs.Outline.Exported

/-!
# Imports between the modules of a run

For each relation to another model, a module imports the interface and the schema with relations of
that model.  These are there if the other model has relations itself, which the check does not ask
for: it only looks whether the model is declared.

* `declared_of_warnings_eq_nil` — what the fields refer to if the check has no warning;
* `interface_mem_exported_iff` — which interfaces a run exports;
* `imports_answered` — when all imports between the modules of a run are answered.
-/

namespace ValidatorGen

/-- Without a warning, the relations and the enumerations of all fields are declared. -/
theorem Check.declared_of_warnings_eq_nil {d : DataModel} {c : Config}
    (h : (reportOf (findings d c)).warnings = []) {m : Model} (hm : m ∈ d.models) {f : Field}
    (hf : f ∈ m.fields) :
    (f.kind = .relation → f.type ∈ d.modelNames) ∧ (f.kind = .enum → f.type ∈ d.enumNames) := by
  have hfinding : ∀ x, referenceFinding? d m.name f = some x → x.severity ≠ .warning := by
    intro x hx hw
    have hmem : x ∈ referenceFindings d :=
      List.mem_flatMap.2 ⟨m, hm, List.mem_filterMap.2 ⟨f, hf, hx⟩⟩
    have hmem : x ∈ findings d c :=
      List.mem_append_left _ (List.mem_append_left _ (List.mem_append_right _ hmem))
    have hitem : x.item ∈ (reportOf (findings d c)).warnings :=
      List.mem_filter.2 ⟨List.mem_map_of_mem hmem, decide_eq_true hw⟩
    rw [h] at hitem
    exact absurd hitem (by simp)
  constructor
  · intro hk
    by_contra hn
    refine hfinding (.unknownRelationTarget m.name f.name f.type) ?_ rfl
    rw [referenceFinding?, hk]
    exact if_neg hn
  · intro hk
    by_contra hn
    refine hfinding (.unknownEnumType m.name f.name f.type) ?_ rfl
    rw [referenceFinding?, hk]
    exact if_neg hn

namespace Emitter

open Emit Outline

variable {e : Emitter} {d : DataModel}

/-! ## What is exported -/

theorem interface_mem_exported_iff {n : Text} :
    (Kind.interface, completeTypeName n) ∈ e.exported d ↔ n ∈ e.completeNames d := by
  rw [exported_eq, List.mem_append]
  constructor
  · rintro (h | h)
    · obtain ⟨k, -, h⟩ := List.mem_flatMap.1 h
      exact absurd h (by simp)
    · obtain ⟨m, hm, h⟩ := List.mem_flatMap.1 h
      rcases List.mem_cons.1 h with h | h
      · exact absurd h (by simp)
      · obtain ⟨hn, h⟩ := List.mem_ite_nil_right.1 h
        rcases List.mem_cons.1 h with h | h
        · rw [completeTypeName_injective (Prod.mk.inj h).2]
          exact List.mem_map_of_mem (List.mem_filter.2 ⟨hm, hn⟩)
        · exact absurd h (by simp)
  · intro h
    obtain ⟨m, hm, rfl⟩ := List.mem_map.1 h
    obtain ⟨hm, hn⟩ := List.mem_filter.1 hm
    refine .inr (List.mem_flatMap.2 ⟨m, hm, ?_⟩)
    rw [if_pos hn]
    exact List.mem_cons_of_mem _ List.mem_cons_self

theorem mem_exportedNames_of_mem_untypedNames {x : Text} (h : x ∈ e.untypedNames d) :
    x ∈ e.exportedNames d :=
  (exportedNames_perm e d).mem_iff.2 (List.mem_append_left _ h)

theorem enumSchemaName_mem_exportedNames {n : Text} (hs : e.config.useStandaloneEnums = true)
    (hn : n ∈ d.enumNames) : enumSchemaName n ∈ e.exportedNames d := by
  have hne : d.enums ≠ [] := by
    obtain ⟨k, hk, -⟩ := List.mem_map.1 hn
    exact List.ne_nil_of_mem hk
  have hstand : Check.enumsStandAlone d e.config = true := by
    rw [Check.enumsStandAlone, hs, List.isEmpty_eq_false_iff.2 hne]
    rfl
  refine mem_exportedNames_of_mem_untypedNames (List.mem_append_left _ ?_)
  exact List.mem_map_of_mem (mem_standaloneNames.2 ⟨hstand, hn⟩)

theorem complete_mem_exportedNames {n : Text} (hn : n ∈ e.completeNames d) :
    completeTypeName n ∈ e.exportedNames d ∧
      e.config.relatedSchemaName n ∈ e.exportedNames d := by
  constructor <;> refine mem_exportedNames_of_mem_untypedNames
    (List.mem_append_right _ (List.mem_append_right _ ?_))
  · exact List.mem_append_left _ (List.mem_map_of_mem hn)
  · exact List.mem_append_right _ (List.mem_map_of_mem hn)

/-! ## Answered imports -/

/-- With relations on, a model that another model is related to has relations itself. -/
def HasAnsweredRelations (e : Emitter) (d : DataModel) : Prop :=
  e.config.relationsEnabled = true → ∀ m ∈ d.models, ∀ f ∈ m.relationFields, f.type ≠ m.name →
    ∀ t ∈ d.models, t.name = f.type → t.hasRelations = true

theorem needsComplete_of_mem_relationFields {m : Model} {f : Field}
    (he : e.config.relationsEnabled = true) (hf : f ∈ m.relationFields) :
    e.needsComplete m = true := by
  obtain ⟨hf, hk⟩ := List.mem_filter.1 hf
  exact (Bool.and_eq_true _ _).mpr ⟨he, List.any_eq_true.2 ⟨f, hf, hk⟩⟩

section

variable (hw : (Check.reportOf (Check.findings d e.config)).warnings = [])

include hw

theorem mem_completeNames_of_answered (ha : HasAnsweredRelations e d) {m : Model}
    (hm : m ∈ d.models) (hn : e.needsComplete m = true) {f : Field} (hf : f ∈ m.relationFields)
    (hother : f.type ≠ m.name) : f.type ∈ e.completeNames d := by
  have he : e.config.relationsEnabled = true := ((Bool.and_eq_true _ _).mp hn).1
  obtain ⟨hfields, hk⟩ := List.mem_filter.1 hf
  obtain ⟨t, ht, htype⟩ := List.mem_map.1
    ((Check.declared_of_warnings_eq_nil hw hm hfields).1 (of_decide_eq_true hk))
  rw [← htype]
  refine List.mem_map_of_mem (List.mem_filter.2 ⟨ht, (Bool.and_eq_true _ _).mpr ⟨he, ?_⟩⟩)
  exact ha he m hm f hf hother t ht htype

theorem mem_exportedNames_of_answered (ha : HasAnsweredRelations e d)
    (hclient : e.clientModule ∉ [("./index" : Text), "./enums"]) {m : Model} (hm : m ∈ d.models)
    {s x : Text} (hs : s ∈ [("./index" : Text), "./enums"])
    (hx : x ∈ (e.outline m).importedFrom s) : x ∈ e.exportedNames d := by
  cases mem_importedFrom_iff.1 hx with
  | decimal => exact absurd hs (by decide)
  | enumSchema hstand hf =>
    obtain ⟨hf, hk⟩ := List.mem_filter.1 hf
    exact enumSchemaName_mem_exportedNames hstand
      ((Check.declared_of_warnings_eq_nil hw hm hf).2 (of_decide_eq_true hk))
  | clientEnum => exact absurd hs hclient
  | interface hn hf hother =>
    exact (complete_mem_exportedNames (mem_completeNames_of_answered hw ha hm hn hf hother)).1
  | relatedSchema hn hf hother =>
    exact (complete_mem_exportedNames (mem_completeNames_of_answered hw ha hm hn hf hother)).2

end

/-- Of two models with one name, one would be refused. -/
theorem not_mem_completeNames (h : Check.IsSound d e.config) {t : Model} (ht : t ∈ d.models)
    (hr : ¬ t.hasRelations = true) : t.name ∉ e.completeNames d := by
  intro hn
  obtain ⟨m, hm, hname⟩ := List.mem_map.1 hn
  obtain ⟨hm, hc⟩ := List.mem_filter.1 hm
  obtain rfl : m = t := List.inj_on_of_nodup_map h.models hm ht hname
  exact hr ((Bool.and_eq_true _ _).mp hc).2

/-- **Imports between modules.**  In a valid run without warnings, all that a model's module imports
from the index and from the enumerations is exported if the models that others are related to have
relations; else some module imports an interface that is not there. -/
theorem imports_answered (h : (Check.reportOf (Check.findings d e.config)).isValid = true)
    (hw : (Check.reportOf (Check.findings d e.config)).warnings = []) :
    e.generate d = (("index.ts" : Text), indexModule d.models (e.emitsEnums d))
        :: e.outlineFiles d ∧
      (HasAnsweredRelations e d → e.clientModule ∉ [("./index" : Text), "./enums"] →
        ∀ m ∈ d.models, ∀ s ∈ [("./index" : Text), "./enums"],
          ∀ x ∈ (e.outline m).importedFrom s, x ∈ e.exportedNames d) ∧
      (¬ HasAnsweredRelations e d → ∃ m ∈ d.models, ∃ n,
        completeTypeName n ∈ (e.outline m).importedFrom "./index" ∧
          (Kind.interface, completeTypeName n) ∉ e.exported d) := by
  refine ⟨generate_eq_outlineFiles h, fun ha hclient m hm s hs x hx =>
    mem_exportedNames_of_answered hw ha hclient hm hs hx, fun hn => ?_⟩
  unfold HasAnsweredRelations at hn
  simp only [not_forall, exists_prop] at hn
  -- the import is made for the relation, but the model at its other end exports no interface
  obtain ⟨he, m, hm, f, hf, hother, t, ht, htype, hr⟩ := hn
  refine ⟨m, hm, f.type, mem_importedFrom_of_related
    (needsComplete_of_mem_relationFields he hf) hf hother (.inl rfl), ?_⟩
  rw [interface_mem_exported_iff, ← htype]
  exact not_mem_completeNames (Check.isValid_iff_isSound.1 h) ht hr

/-- Two models that refer to each other, and an enumeration that stands on its own. -/
theorem imports_answered_blog :
    let posts : Field := { name := "posts", kind := .relation, type := "Post", isList := true }
    let author : Field := { name := "author", kind := .relation, type := "User" }
    let state : Field := { name := "state", kind := .enum, type := "State" }
    let post : Model := { name := "Post", fields := [author, state] }
    let e : Emitter := ⟨{ useStandaloneEnums := true }, .empty, "@prisma/client", none⟩
    let d : DataModel := ⟨[{ name := "User", fields := [posts] }, post], [⟨"State", ["DRAFT"]⟩]⟩
    (e.outline post).importedFrom "./index" = ["CompleteUser", "RelatedUserModel"] ∧
      (e.outline post).importedFrom "./enums" = ["stateSchema"] ∧
      ∀ m ∈ d.models, ∀ s ∈ [("./index" : Text), "./enums"],
        ∀ x ∈ (e.outline m).importedFrom s, x ∈ e.exportedNames d := by
  intro posts author state post e d
  have h : (Check.reportOf (Check.findings d e.config)).isValid = true := by decide +kernel
  have hw : (Check.reportOf (Check.findings d e.config)).warnings = [] := by decide +kernel
  have ha : HasAnsweredRelations e d := by
    unfold HasAnsweredRelations
    decide +kernel
  exact ⟨by decide +kernel, by decide +kernel, (imports_answered h hw).2.1 ha (by decide)⟩

/-- The model that the relation leads to has none of its own. -/
theorem not_imports_answered :
    let posts : Field := { name := "posts", kind := .relation, type := "Post", isList := true }
    let user : Model := { name := "User", fields := [posts] }
    let post : Model := { name := "Post", fields := [{ name := "id", type := "Int" }] }
    let e : Emitter := ⟨{}, .empty, "@prisma/client", none⟩
    let d : DataModel := ⟨[user, post], []⟩
    (Check.reportOf (Check.findings d e.config)).isValid = true ∧
      (Check.reportOf (Check.findings d e.config)).warnings = [] ∧
      (e.outline user).importedFrom "./index" = ["CompletePost", "RelatedPostModel"] ∧
      e.exportedNames d = ["UserModel", "CompleteUser", "RelatedUserModel", "PostModel"] := by
  intro posts user post e d
  exact ⟨by decide +kernel, by decide +kernel, by decide +kernel, by decide +kernel⟩

end Emitter

end ValidatorGen
