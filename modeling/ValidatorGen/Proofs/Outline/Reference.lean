import ValidatorGen.Proofs.Outline.Model

/-!
# What the sections of a module refer to

The helpers and the schema of a model's own fields need nothing of another model, whatever the
model's relations are.  The interface refers to other names only in types, and the schema with
relations only behind `z.lazy`.

* `mem_propertyLines` — a property refers to what the base of its field refers to;
* `mem_localNames_of_helperSections`, `mem_localNames_of_scalarSection` — the names that a module
  needs for itself;
* `of_mem_usesIn_interfaceSection`, `of_mem_usesIn_completeSection` — when the others are needed;
* `mem_uses_outline` — what the whole module refers to.
-/

namespace ValidatorGen.Emitter

open Emit Outline

/-! ## Bases -/

/-- The name that stands for an enumeration. -/
def enumReference (c : Config) (enum : Text) : Text :=
  if c.useStandaloneEnums then enumSchemaName enum else enum

/-- What the base of a field refers to, where `related` names the schema of another model. -/
inductive IsReference (f : Field) (c : Config) (related : Text → Text) : Text → Prop
  | z : IsReference f c related "z"
  | json (hk : f.kind = .scalar) (hj : f.hasType .json = true) :
    IsReference f c related "jsonSchema"
  | enum (hk : f.kind = .enum) : IsReference f c related (enumReference c f.type)
  | relation (hk : f.kind = .relation) : IsReference f c related (related f.type)

section

variable {use : Use} {f : Field} {native? : Option Text} {c : Config} {related : Text → Text}

theorem mem_draftLine {p : Piece} (hp : p ∈ draftLine use f native? c related) :
    (∃ s, p = .text s) ∨ ∃ x, IsReference f c related x ∧ p = .refers use x := by
  unfold draftLine at hp
  cases hk : f.kind with
  | scalar =>
    rw [hk] at hp
    dsimp only at hp
    split_ifs at hp with hj
    · exact .inr ⟨_, .json hk hj, List.mem_singleton.1 hp⟩
    · simp only [List.mem_cons, List.not_mem_nil, or_false] at hp
      rcases hp with rfl | rfl
      · exact .inr ⟨_, .z, rfl⟩
      · exact .inl ⟨_, rfl⟩
  | enum =>
    have henum : IsReference f c related (enumReference c f.type) := .enum hk
    unfold enumReference at henum
    rw [hk] at hp
    dsimp only at hp
    split_ifs at hp henum
    · exact .inr ⟨_, henum, List.mem_singleton.1 hp⟩
    · simp only [List.mem_cons, List.not_mem_nil, or_false] at hp
      rcases hp with rfl | rfl | rfl | rfl
      · exact .inr ⟨_, .z, rfl⟩
      · exact .inl ⟨_, rfl⟩
      · exact .inr ⟨_, henum, rfl⟩
      · exact .inl ⟨_, rfl⟩
  | relation =>
    rw [hk] at hp
    exact .inr ⟨_, .relation hk, List.mem_singleton.1 hp⟩

/-- The directives bring in no other reference of the generator than `z`. -/
theorem mem_validatorLine {ds : List Directive} {default? : Option Literal} {p : Piece}
    (hp : p ∈ validatorLine use f native? ds default? c related) :
    (∃ s, p = .text s) ∨ ∃ x, IsReference f c related x ∧ p = .refers use x := by
  rcases List.mem_append.1 hp with hp | hp
  · unfold baseLine at hp
    cases hc : Directive.firstCustom ds with
    | some custom =>
      rw [hc] at hp
      exact .inl ⟨_, List.mem_singleton.1 hp⟩
    | none =>
      rw [hc] at hp
      cases hs : Directive.firstStandalone ds with
      | none =>
        rw [hs] at hp
        exact mem_draftLine hp
      | some call =>
        rw [hs] at hp
        dsimp only at hp
        split_ifs at hp
        · simp only [List.mem_cons, List.not_mem_nil, or_false] at hp
          rcases hp with rfl | rfl
          · exact .inr ⟨_, .z, rfl⟩
          · exact .inl ⟨_, rfl⟩
        · exact mem_draftLine hp
  · exact .inl ⟨_, List.mem_singleton.1 hp⟩

theorem mem_propertyLines {default? : Option Literal} {l : Line} {p : Piece}
    (hl : l ∈ propertyLines use f native? default? c related) (hp : p ∈ l) :
    (∃ s, p = .text s) ∨ ∃ x, IsReference f c related x ∧ p = .refers use x := by
  rcases List.mem_append.1 hl with hl | hl
  · obtain ⟨s, -, rfl⟩ := List.mem_map.1 hl
    exact .inl ⟨s, List.mem_singleton.1 hp⟩
  · rw [List.mem_singleton.1 hl] at hp
    rcases List.mem_append.1 hp with hp | hp
    · rcases List.mem_cons.1 hp with rfl | hp
      · exact .inl ⟨_, rfl⟩
      · exact mem_validatorLine hp
    · exact .inl ⟨_, List.mem_singleton.1 hp⟩

theorem of_mem_usesIn_propertyLines {default? : Option Literal} {u : Use} {x : Text}
    (h : (u, x) ∈ usesIn (propertyLines use f native? default? c related)) :
    u = use ∧ IsReference f c related x := by
  obtain ⟨l, hl, p, hp, hx⟩ := mem_collect.1 h
  rcases mem_propertyLines hl hp with ⟨s, rfl⟩ | ⟨y, hy, rfl⟩ <;> cases hx
  exact ⟨rfl, hy⟩

end

/-! ## The names that a module needs for itself -/

/-- The names that the helper for JSON values declares. -/
def jsonHelperNames : List Text := ["Literal", "Json", "literalSchema", "jsonSchema"]

/-- The names that the helpers and the schema of the own fields refer to. -/
def localNames (e : Emitter) (m : Model) : List Text :=
  let decimal : List Text := if e.usesDecimal m then ["Decimal"] else []
  let json : List Text := if usesJson m then jsonHelperNames else []
  ("z" : Text) :: decimal ++ json ++ m.enumFields.map fun f => enumReference e.config f.type

variable {e : Emitter} {m : Model} {u : Use} {x : Text}

theorem mem_localNames_iff : x ∈ e.localNames m ↔
    x = "z" ∨ (e.usesDecimal m = true ∧ x = "Decimal") ∨
      (usesJson m = true ∧ x ∈ jsonHelperNames) ∨
        ∃ f ∈ m.enumFields, enumReference e.config f.type = x := by
  unfold localNames
  rw [List.mem_append, List.mem_append, List.mem_cons, List.mem_ite_nil_right,
    List.mem_ite_nil_right, List.mem_singleton, List.mem_map, or_assoc, or_assoc]

theorem z_mem_localNames : ("z" : Text) ∈ e.localNames m := mem_localNames_iff.2 (.inl rfl)

theorem mem_localNames_of_json (hu : usesJson m = true) (hx : x ∈ jsonHelperNames) :
    x ∈ e.localNames m := mem_localNames_iff.2 (.inr (.inr (.inl ⟨hu, hx⟩)))

/-- A reading that passes over imports finds nothing in the import statements. -/
theorem collect_importSection {α : Type} {f : Piece → Option α}
    (hall : ∀ name module, f (.importsAll name module) = none)
    (hnames : ∀ names module, f (.imports names module) = none) :
    collect f (e.importSection m) = [] := by
  refine collect_eq_nil fun l hl p hp => ?_
  rcases List.mem_append.1 hl with hl | hl
  · rcases List.mem_append.1 hl with hl | hl
    · rcases List.mem_cons.1 hl with rfl | hl
      · rw [List.mem_singleton.1 hp, hall]
      · obtain ⟨i, -, rfl⟩ := Option.map_eq_some_iff.1 (Option.mem_toList.1 hl)
        rw [List.mem_singleton.1 hp, hall]
    · rw [List.mem_singleton.1 (List.mem_ite_nil_right.1 hl).2] at hp
      rw [List.mem_singleton.1 hp, hnames]
  · obtain ⟨i, -, rfl⟩ := List.mem_map.1 hl
    rw [List.mem_singleton.1 hp, hnames]

theorem usesIn_importSection : usesIn (e.importSection m) = [] :=
  collect_importSection (fun _ _ => rfl) fun _ _ => rfl

theorem mem_localNames_of_helperSections {ls : List Line} (hls : ls ∈ e.helperSections m)
    (hx : (u, x) ∈ usesIn ls) : x ∈ e.localNames m := by
  rcases List.mem_append.1 hls with hls | hls
  · obtain ⟨hu, hls⟩ := List.mem_ite_nil_right.1 hls
    rw [List.mem_singleton.1 hls] at hx
    have hnames : ∀ y ∈ usesIn (jsonHelperLines e.config), y.2 = "z" ∨ y.2 ∈ jsonHelperNames := by
      unfold jsonHelperLines
      cases e.config.prismaJsonNullability <;> decide +kernel
    rcases hnames (u, x) hx with rfl | hx
    · exact z_mem_localNames
    · exact mem_localNames_of_json hu hx
  · obtain ⟨hu, hls⟩ := List.mem_ite_nil_right.1 hls
    rw [List.mem_singleton.1 hls] at hx
    have hnames : ∀ y ∈ usesIn decimalHelperLines, y.2 = "z" ∨ y.2 = "Decimal" := by
      decide +kernel
    rcases hnames (u, x) hx with rfl | rfl
    · exact z_mem_localNames
    · exact mem_localNames_iff.2 (.inr (.inl ⟨hu, rfl⟩))

theorem mem_localNames_of_scalarSection (hx : (u, x) ∈ usesIn (e.scalarSection m)) :
    x ∈ e.localNames m := by
  unfold usesIn scalarSection at hx
  rw [collect_append, collect_append, collect_append, collect_plain fun _ => rfl,
    collect_indent fun _ => rfl] at hx
  simp only [List.nil_append, List.mem_append] at hx
  rcases hx with (hx | hx) | hx
  · cases List.mem_singleton.1 hx
    exact z_mem_localNames
  · obtain ⟨l, hl, hx⟩ := mem_collect.1 hx
    obtain ⟨f, hf, hl⟩ := List.mem_flatMap.1 hl
    obtain ⟨hf, hk⟩ := List.mem_filter.1 hf
    obtain ⟨-, href⟩ := of_mem_usesIn_propertyLines (mem_collect.2 ⟨l, hl, hx⟩)
    cases href with
    | z => exact z_mem_localNames
    | json _ hj =>
      have hu : usesJson m = true := List.any_eq_true.2 ⟨f, hf, by rw [hj, hk]; rfl⟩
      exact mem_localNames_of_json hu (by decide)
    | enum hs =>
      refine mem_localNames_iff.2 (.inr (.inr (.inr ⟨f, ?_, rfl⟩)))
      exact List.mem_filter.2 ⟨hf, decide_eq_true hs⟩
    | relation hs => exact absurd hk (by simp [Field.isRelation, hs])
  · exact absurd hx (by simp [collect, Piece.use?])

/-! ## The names that relations need -/

theorem of_mem_usesIn_interfaceSection (hx : (u, x) ∈ usesIn (e.interfaceSection m)) :
    u = .type ∧ (x = "z" ∨ x = e.config.modelSchemaName m.name ∨
      ∃ f ∈ m.relationFields, x = completeTypeName f.type) := by
  unfold usesIn interfaceSection at hx
  rw [collect_append, collect_append, collect_indent fun _ => rfl] at hx
  simp only [List.mem_append] at hx
  rcases hx with (hx | hx) | hx
  · simp only [collect, Piece.use?, List.flatten_cons, List.flatten_nil, List.append_nil,
      List.filterMap_cons, List.filterMap_nil, List.mem_cons, List.not_mem_nil, or_false,
      Prod.mk.injEq] at hx
    rcases hx with ⟨rfl, rfl⟩ | ⟨rfl, rfl⟩
    · exact ⟨rfl, .inl rfl⟩
    · exact ⟨rfl, .inr (.inl rfl)⟩
  · obtain ⟨l, hl, p, hp, hx⟩ := mem_collect.1 hx
    obtain ⟨f, hf, rfl⟩ := List.mem_map.1 hl
    simp only [interfaceLine, List.mem_cons, List.not_mem_nil, or_false] at hp
    rcases hp with rfl | rfl | rfl <;> cases hx
    exact ⟨rfl, .inr (.inr ⟨f, hf, rfl⟩)⟩
  · exact absurd hx (by simp [collect, Piece.use?])

/-- Behind `z.lazy` stand the own schema and those of the relations; in front of it only `z` and the
own interface. -/
theorem of_mem_usesIn_completeSection (hx : (u, x) ∈ usesIn (e.completeSection m)) :
    x = "z" ∨ (u = .type ∧ x = completeTypeName m.name) ∨
      (u = .deferred ∧ (x = e.config.modelSchemaName m.name ∨
        ∃ f ∈ m.relationFields, x = e.config.relatedSchemaName f.type)) := by
  unfold usesIn completeSection at hx
  dsimp only at hx
  rw [collect_append, collect_append, collect_indent fun _ => rfl] at hx
  simp only [List.mem_append] at hx
  rcases hx with (hx | hx) | hx
  · simp only [collect, Piece.use?, List.flatten_cons, List.flatten_nil, List.append_nil,
      List.filterMap_append, List.nil_append, List.filterMap_cons, List.filterMap_nil, List.mem_cons,
      List.not_mem_nil, or_false, Prod.mk.injEq] at hx
    rcases hx with ⟨rfl, rfl⟩ | ⟨rfl, rfl⟩ | ⟨rfl, rfl⟩ | ⟨rfl, rfl⟩
    · exact .inl rfl
    · exact .inr (.inl ⟨rfl, rfl⟩)
    · exact .inl rfl
    · exact .inr (.inr ⟨rfl, .inl rfl⟩)
  · obtain ⟨l, hl, hx⟩ := mem_collect.1 hx
    obtain ⟨f, hf, hl⟩ := List.mem_flatMap.1 hl
    have hk : f.kind = .relation := of_decide_eq_true (List.mem_filter.1 hf).2
    obtain ⟨rfl, href⟩ := of_mem_usesIn_propertyLines (mem_collect.2 ⟨l, hl, hx⟩)
    cases href with
    | z => exact .inl rfl
    | json hs _ => exact absurd (hk.symm.trans hs) (by decide)
    | enum hs => exact absurd (hk.symm.trans hs) (by decide)
    | relation _ => exact .inr (.inr ⟨rfl, .inr ⟨f, hf, rfl⟩⟩)
  · exact absurd hx (by simp [collect, Piece.use?])

/-! ## All sections -/

/-- What a module refers to, by section. -/
theorem mem_uses_outline : (u, x) ∈ (e.outline m).uses ↔
    (∃ ls ∈ e.helperSections m, (u, x) ∈ usesIn ls) ∨ (u, x) ∈ usesIn (e.scalarSection m) ∨
      (e.needsComplete m = true ∧
        ((u, x) ∈ usesIn (e.interfaceSection m) ∨ (u, x) ∈ usesIn (e.completeSection m))) := by
  unfold Module.uses outline
  rw [List.flatMap_append, List.flatMap_cons, List.flatMap_cons, usesIn_importSection,
    List.nil_append, List.mem_append, List.mem_append, List.mem_flatMap]
  refine or_congr_right (or_congr_right ?_)
  split_ifs with hn <;> simp [hn]

end ValidatorGen.Emitter
