import Mathlib.Data.List.Forall2
import Mathlib.Tactic.MkIffOfInductiveProp
import ValidatorGen.Proofs.Check.Clash
import ValidatorGen.Proofs.Check.Names

/-!
# The verdict of the whole check

The checks are walks that carry what they have met so far, and only the first one of two that do not
go together is kept.  Whether they find an error is nevertheless a matter of the names alone.

* `isValid_iff_isSound` — what the names of a data model without errors are like;
* `isSound_congr` — they are so in every other order;
* `verdict` — both.
-/

namespace ValidatorGen

/-- The same model with its fields in another order. -/
def Model.IsRearranged (m n : Model) : Prop := ∃ fs, m.fields.Perm fs ∧ n = { m with fields := fs }

/-- The same models, enumerations and fields, in another order. -/
def DataModel.IsRearranged (d d' : DataModel) : Prop :=
  d.enums.Perm d'.enums ∧
    ∃ ms, d.models.Perm ms ∧ List.Forall₂ Model.IsRearranged ms d'.models

namespace Check

/-! ## Which findings are errors -/

/-- A reference that leads nowhere is no error. -/
theorem isError_of_mem_referenceFindings {d : DataModel} {x : Finding}
    (h : x ∈ referenceFindings d) : x.isError = false := by
  obtain ⟨m, -, h⟩ := List.mem_flatMap.1 h
  obtain ⟨f, -, h⟩ := List.mem_filterMap.1 h
  unfold referenceFinding? at h
  split at h <;> split_ifs at h <;> cases h <;> rfl

theorem any_isError_eq_false_iff {fs : List Finding} (h : ∀ x ∈ fs, x.isError = true) :
    fs.any (·.isError) = false ↔ fs = [] := by
  rw [List.any_eq_false, List.eq_nil_iff_forall_not_mem]
  exact forall₂_congr fun x hx => by simp [h x hx]

theorem any_isError_settingsFindings {c : Config} :
    (settingsFindings c).any (·.isError) = false ↔
      acceptsName ("X" ++ c.modelSuffix) = true ∧ acceptsSpecifier c.zodImport = true := by
  unfold settingsFindings
  simp only [List.any_append, Bool.or_eq_false_iff]
  have hsuffix : (if acceptsName ("X" ++ c.modelSuffix) = true then [] else
      [Finding.invalidModelSuffix c.modelSuffix]).any (·.isError) = false ↔
      acceptsName ("X" ++ c.modelSuffix) = true := by
    split_ifs with h <;> simp [h, Finding.isError, Finding.severity]
  have hzod : (if acceptsSpecifier c.zodImport = true then [] else
      [Finding.invalidZodImport c.zodImport]).any (·.isError) = false ↔
      acceptsSpecifier c.zodImport = true := by
    split_ifs with h <;> simp [h, Finding.isError, Finding.severity]
  rw [hsuffix, hzod]
  constructor
  · rintro ⟨⟨⟨-, hs⟩, hz⟩, -⟩
    exact ⟨hs, hz⟩
  · rintro ⟨hs, hz⟩
    refine ⟨⟨⟨⟨?_, ?_⟩, hs⟩, hz⟩, ?_⟩ <;> split_ifs <;> rfl

/-- A report is valid if the walks find nothing and the settings are accepted. -/
theorem isValid_iff {d : DataModel} {c : Config} :
    (reportOf (findings d c)).isValid = true ↔
      (modelNameFindings [] [] d.modelNames = [] ∧ enumNameFindings d.modelNames [] d.enumNames = [] ∧
        fieldFindings d = []) ∧
      (acceptsName ("X" ++ c.modelSuffix) = true ∧ acceptsSpecifier c.zodImport = true) ∧
      identifierFindings d c = [] := by
  have hreferences : (referenceFindings d).any (·.isError) = false :=
    List.any_eq_false.2 fun x hx => by simp [isError_of_mem_referenceFindings hx]
  have hfields : ∀ x ∈ fieldFindings d, x.isError = true := by
    intro x hx
    obtain ⟨m, -, hx⟩ := List.mem_flatMap.1 hx
    exact isError_of_mem_fieldNameFindings hx
  rw [isValid_reportOf, Bool.not_eq_true']
  unfold findings dataModelFindings nameFindings
  simp only [List.any_append, Bool.or_eq_false_iff, hreferences, and_true]
  rw [any_isError_eq_false_iff fun x => isError_of_mem_modelNameFindings,
    any_isError_eq_false_iff fun x => isError_of_mem_enumNameFindings,
    any_isError_eq_false_iff hfields, any_isError_settingsFindings,
    any_isError_eq_false_iff fun x => isError_of_mem_identifierFindings]
  simp only [and_assoc]

/-! ## Sound names -/

/-- What the names of a data model without errors are like. -/
@[mk_iff]
structure IsSound (d : DataModel) (c : Config) : Prop where
  models : d.modelNames.Nodup
  accepted : ∀ m ∈ d.modelNames, acceptsName m = true
  files : (d.modelNames.map moduleFileName).Nodup
  index : ∀ m ∈ d.modelNames, moduleFileName m ≠ "index.ts"
  enumsFile : enumsStandAlone d c = true → ∀ m ∈ d.modelNames, moduleFileName m ≠ "enums.ts"
  enums : d.enumNames.Nodup
  apart : ∀ n ∈ d.enumNames, n ∉ d.modelNames
  fields : ∀ m ∈ d.models, (m.fields.map (·.name)).Nodup
  fieldNames : ∀ m ∈ d.models, ∀ f ∈ m.fields, acceptsName f.name = true
  suffix : acceptsName ("X" ++ c.modelSuffix) = true
  zodImport : acceptsSpecifier c.zodImport = true
  schemas : ∀ m ∈ d.modelNames, ∀ n ∈ d.modelNames, m ≠ n →
    c.modelSchemaName m ≠ c.modelSchemaName n
  enumSchemas : enumsStandAlone d c = true → ∀ m ∈ d.enumNames, ∀ n ∈ d.enumNames, m ≠ n →
    enumSchemaName m ≠ enumSchemaName n
  schemasApart : enumsStandAlone d c = true → ∀ m ∈ d.modelNames, ∀ n ∈ d.enumNames,
    c.modelSchemaName m ≠ enumSchemaName n

theorem fieldFindings_eq_nil_iff {d : DataModel} :
    fieldFindings d = [] ↔ ∀ m ∈ d.models,
      (m.fields.map (·.name)).Nodup ∧ ∀ f ∈ m.fields, acceptsName f.name = true := by
  unfold fieldFindings
  rw [List.flatMap_eq_nil_iff]
  refine forall₂_congr fun m _ => ?_
  rw [fieldNameFindings_eq_nil_iff]
  simp

theorem isValid_iff_isSound {d : DataModel} {c : Config} :
    (reportOf (findings d c)).isValid = true ↔ IsSound d c := by
  rw [isValid_iff, modelNameFindings_eq_nil_iff, enumNameFindings_eq_nil_iff,
    fieldFindings_eq_nil_iff, identifierFindings_eq_nil_iff, isOwned_identifiers_iff]
  constructor
  · rintro ⟨⟨⟨hfiles, hmodels⟩, ⟨henums, hapart⟩, hfields⟩, ⟨hsuffix, hzod⟩, hfile, hschemas,
      henumSchemas, hschemasApart⟩
    exact {
      models := hfiles.of_map _
      accepted := fun m hm => (hmodels m hm).1
      files := hfiles
      index := fun m hm => (hmodels m hm).2.2.1
      enumsFile := hfile
      enums := henums
      apart := fun n hn => (hapart n hn).2
      fields := fun m hm => (hfields m hm).1
      fieldNames := fun m hm => (hfields m hm).2
      suffix := hsuffix
      zodImport := hzod
      schemas := hschemas
      enumSchemas := henumSchemas
      schemasApart := hschemasApart }
  · intro h
    refine ⟨⟨⟨h.files, fun m hm => ⟨h.accepted m hm, ?_, h.index m hm, ?_⟩⟩,
      ⟨h.enums, fun n hn => ⟨?_, h.apart n hn⟩⟩, fun m hm => ⟨h.fields m hm, h.fieldNames m hm⟩⟩,
      ⟨h.suffix, h.zodImport⟩, h.enumsFile, h.schemas, h.enumSchemas, h.schemasApart⟩
    all_goals simp

section

variable {d : DataModel} {c : Config} (h : (reportOf (findings d c)).isValid = true)

include h

/-- The models of a valid run are accepted, and their files are all different. -/
theorem nodup_of_isValid :
    (d.models.map fun m => moduleFileName m.name).Nodup ∧
      ∀ m ∈ d.models, acceptsName m.name = true ∧ moduleFileName m.name ≠ "index.ts" := by
  have hs := isValid_iff_isSound.1 h
  have hfiles := hs.files
  unfold DataModel.modelNames at hfiles
  rw [List.map_map] at hfiles
  refine ⟨hfiles, fun m hm => ?_⟩
  have hname : m.name ∈ d.modelNames := List.mem_map_of_mem hm
  exact ⟨hs.accepted _ hname, hs.index _ hname⟩

/-- No model of a valid run takes the file of the enumerations. -/
theorem enumsFile_of_isValid (hs : enumsStandAlone d c = true) :
    ∀ m ∈ d.models, moduleFileName m.name ≠ "enums.ts" := fun _ hm =>
  (isValid_iff_isSound.1 h).enumsFile hs _ (List.mem_map_of_mem hm)

end

/-! ## Other orders -/

theorem map_name_eq {ms ns : List Model} (h : List.Forall₂ Model.IsRearranged ms ns) :
    ms.map (·.name) = ns.map (·.name) := by
  induction h with
  | nil => rfl
  | cons hmn _ ih =>
    obtain ⟨fs, -, rfl⟩ := hmn
    rw [List.map_cons, List.map_cons, ih]

/-- A property of models that is the same in every order of the fields holds on both sides. -/
theorem forall_mem_iff {P : Model → Prop}
    (hP : ∀ m fs, m.fields.Perm fs → (P m ↔ P { m with fields := fs })) {ms ns : List Model}
    (h : List.Forall₂ Model.IsRearranged ms ns) : (∀ m ∈ ms, P m) ↔ ∀ n ∈ ns, P n := by
  induction h with
  | nil => exact ⟨fun _ n hn => absurd hn (by simp), fun _ m hm => absurd hm (by simp)⟩
  | cons hmn _ ih =>
    obtain ⟨fs, hfs, rfl⟩ := hmn
    rw [List.forall_mem_cons, List.forall_mem_cons, hP _ fs hfs, ih]

section

variable {d d' : DataModel} (h : d.IsRearranged d')

include h

theorem perm_enumNames : d.enumNames.Perm d'.enumNames := h.1.map _

theorem perm_modelNames : d.modelNames.Perm d'.modelNames := by
  obtain ⟨-, ms, hperm, hfields⟩ := h
  have hnames : ms.map (·.name) = d'.modelNames := map_name_eq hfields
  exact hnames ▸ hperm.map _

theorem forall_models_iff {P : Model → Prop}
    (hP : ∀ m fs, m.fields.Perm fs → (P m ↔ P { m with fields := fs })) :
    (∀ m ∈ d.models, P m) ↔ ∀ n ∈ d'.models, P n := by
  obtain ⟨-, ms, hperm, hfields⟩ := h
  rw [← forall_mem_iff hP hfields]
  exact forall_congr' fun m => by rw [hperm.mem_iff]

theorem enumsStandAlone_eq (c : Config) : enumsStandAlone d' c = enumsStandAlone d c := by
  unfold enumsStandAlone
  rw [h.1.isEmpty_eq]

end

theorem isSound_congr {d d' : DataModel} (h : d.IsRearranged d') (c : Config) :
    IsSound d c ↔ IsSound d' c := by
  have hmodels : ∀ x, x ∈ d.modelNames ↔ x ∈ d'.modelNames := fun x => (perm_modelNames h).mem_iff
  have henums : ∀ x, x ∈ d.enumNames ↔ x ∈ d'.enumNames := fun x => (perm_enumNames h).mem_iff
  have hnodup := (perm_modelNames h).nodup_iff
  have hfiles := ((perm_modelNames h).map moduleFileName).nodup_iff
  have henumsNodup := (perm_enumNames h).nodup_iff
  have hfields := forall_models_iff h (P := fun m => (m.fields.map (·.name)).Nodup)
    fun m fs hfs => (hfs.map _).nodup_iff
  have hfieldNames := forall_models_iff h (P := fun m => ∀ f ∈ m.fields, acceptsName f.name = true)
    fun m fs hfs => forall_congr' fun f => by rw [hfs.mem_iff]
  simp only [isSound_iff, hmodels, henums, hnodup, hfiles, henumsNodup, hfields, hfieldNames,
    enumsStandAlone_eq h]

/-- **The verdict.**  A report is valid exactly if the names are sound, and it is as valid as that of
the same models, enumerations and fields in another order. -/
theorem verdict (d : DataModel) (c : Config) :
    ((reportOf (findings d c)).isValid = true ↔ IsSound d c) ∧
      ∀ d', d.IsRearranged d' →
        (reportOf (findings d' c)).isValid = (reportOf (findings d c)).isValid := by
  refine ⟨isValid_iff_isSound, fun d' h => ?_⟩
  rw [Bool.eq_iff_iff, isValid_iff_isSound, isValid_iff_isSound]
  exact (isSound_congr h c).symm

/-- Two models, the fields of one of them, and two enumerations change places. -/
theorem verdict_swapped :
    let id : Field := { name := "id", type := "Int" }
    let role : Field := { name := "role", kind := .enum, type := "Role" }
    let user : Model := { name := "User", fields := [id, role] }
    let post : Model := { name := "Post", fields := [id] }
    let d : DataModel := ⟨[user, post], [⟨"Role", ["ADMIN"]⟩, ⟨"Kind", ["A"]⟩]⟩
    let d' : DataModel :=
      ⟨[post, { user with fields := [role, id] }], [⟨"Kind", ["A"]⟩, ⟨"Role", ["ADMIN"]⟩]⟩
    let c : Config := { useStandaloneEnums := true }
    d.IsRearranged d' ∧ IsSound d c ∧ (reportOf (findings d' c)).isValid = true := by
  intro id role user post d d' c
  have hvalid : (reportOf (findings d c)).isValid = true := by decide +kernel
  have hperm : d.IsRearranged d' := by
    refine ⟨.swap _ _ _, [post, user], .swap _ _ _, .cons ⟨[id], .refl _, rfl⟩ ?_⟩
    exact .cons ⟨[role, id], .swap _ _ _, rfl⟩ .nil
  obtain ⟨hsound, hsame⟩ := verdict d c
  exact ⟨hperm, hsound.1 hvalid, (hsame d' hperm).trans hvalid⟩

end Check

end ValidatorGen
