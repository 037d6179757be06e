import ValidatorGen.Proofs.Outline.Linkage

/-!
# When a module needs its names

A model without directives in its documentation needs nothing of another model while its module is
loaded: the bases of its own fields are calls on `z`, the helper for JSON values, or the
enumeration of the field.

* `isOwnBase_scalarExpression` — these are all bases;
* `isDeferred_iff` — a name is left for the types of the interface and for what stands behind
  `z.lazy` exactly if it is none that the module needs for its own fields.
-/

namespace ValidatorGen

/-- The documentation of the fields holds no directive. -/
def Model.HasNoDirectives (m : Model) : Prop :=
  ∀ f ∈ m.fields, (Documentation.ofText? f.documentation?).directives = []

namespace Emitter

open Emit Outline

variable {e : Emitter} {m : Model}

/-! ## Bases -/

/-- The base of a field that belongs to it alone: a call on `z`, one of them the check for a
`Buffer`, the helper for JSON values, or the own enumeration. -/
inductive IsOwnBase (c : Config) (f : Field) : Text → Prop
  | call {s : Text} (h : Compile.IsScalarBase c s) : IsOwnBase c f s
  | json (hj : f.hasType .json = true) : IsOwnBase c f "jsonSchema"
  | enum (hk : f.kind = .enum) : IsOwnBase c f (Compile.enumBase c f.type)

theorem isOwnBase_draft {f : Field} (hk : f.isRelation = false) (native? : Option Text)
    (c : Config) (related : Text → Text) :
    IsOwnBase c f (Compile.draft f native? c related).base := by
  unfold Compile.draft
  cases hkind : f.kind with
  | scalar =>
    cases hj : f.hasType .json with
    | true =>
      dsimp only
      rw [Compile.draftScalar_json hj]
      exact .json hj
    | false => exact .call (Compile.isScalarBase_draftScalar hj native? c)
  | enum => exact .enum hkind
  | relation => exact absurd hk (by simp [Field.isRelation, hkind])

theorem isOwnBase_scalarExpression (hd : m.HasNoDirectives) {f : Field} (hf : f ∈ m.scalarFields) :
    IsOwnBase e.config f (e.scalarExpression m.name f).base := by
  obtain ⟨hf, hk⟩ := List.mem_filter.1 hf
  unfold scalarExpression
  rw [hd f hf]
  exact isOwnBase_draft (by simpa using hk) _ _ _

/-! ## Names that a module needs -/

/-- The name that a schema takes from no module. -/
def globalNames (e : Emitter) (m : Model) : List Text :=
  if m.scalarFields.any fun f => (e.scalarExpression m.name f).base = "z.instanceof(Buffer)" then
    ["Buffer"]
  else []

/-- The names that a module needs for its own fields, and its own interface. -/
def ownNames (e : Emitter) (m : Model) : List Text :=
  e.localNames m ++ e.globalNames m ++ if e.needsComplete m then [completeTypeName m.name] else []

/-- A name is needed only in types of the interface and behind `z.lazy`. -/
structure IsDeferred (e : Emitter) (m : Model) (x : Text) : Prop where
  helpers : ∀ ls ∈ e.helperSections m, ∀ u, (u, x) ∉ usesIn ls
  schema : ∀ u, (u, x) ∉ usesIn (e.scalarSection m)
  global : x ∉ e.globalNames m
  interface : e.needsComplete m = true → ∀ u, (u, x) ∈ usesIn (e.interfaceSection m) → u = .type
  complete : e.needsComplete m = true → ∀ u, (u, x) ∈ usesIn (e.completeSection m) → u = .deferred

/-- A name is needed when the module is loaded. -/
def IsEager (e : Emitter) (m : Model) (x : Text) : Prop :=
  (.eager, x) ∈ (e.outline m).uses ∨ x ∈ e.globalNames m

theorem IsDeferred.not_isEager {x : Text} (h : IsDeferred e m x) : ¬ IsEager e m x := by
  rintro (hx | hx)
  · rcases mem_uses_outline.1 hx with ⟨ls, hls, hx⟩ | hx | ⟨hn, hx | hx⟩
    · exact h.helpers ls hls _ hx
    · exact h.schema _ hx
    · exact absurd (h.interface hn _ hx) (by decide)
    · exact absurd (h.complete hn _ hx) (by decide)
  · exact h.global hx

/-! ## Where they are needed -/

theorem eager_z_mem_scalarSection :
    (Use.eager, ("z" : Text)) ∈ usesIn (e.scalarSection m) := by
  unfold usesIn scalarSection
  rw [collect_append, collect_append, collect_append]
  exact List.mem_append_left _ (List.mem_append_left _ (List.mem_append_right _
    List.mem_cons_self))

theorem refers_mem_draftLine (use : Use) {f : Field} (hk : f.kind = .enum)
    (native? : Option Text) (c : Config) (related : Text → Text) :
    .refers use (enumReference c f.type) ∈ draftLine use f native? c related := by
  unfold draftLine enumReference
  rw [hk]
  dsimp only
  split_ifs <;> simp

theorem eager_enum_mem_scalarSection (hd : m.HasNoDirectives) {f : Field} (hf : f ∈ m.enumFields) :
    (.eager, enumReference e.config f.type) ∈ usesIn (e.scalarSection m) := by
  obtain ⟨hf, hk⟩ := List.mem_filter.1 hf
  have hk : f.kind = .enum := of_decide_eq_true hk
  have hscalar : f ∈ m.scalarFields :=
    List.mem_filter.2 ⟨hf, by simp [Field.isRelation, hk]⟩
  unfold usesIn scalarSection
  rw [collect_append, collect_append, collect_indent fun _ => rfl]
  refine List.mem_append_left _ (List.mem_append_right _ ?_)
  have hline := refers_mem_draftLine .eager hk (e.hints.get? m.name f.name) e.config id
  refine mem_collect.2 ⟨_, List.mem_flatMap.2 ⟨f, hscalar, List.mem_append_right _
    (List.mem_singleton_self _)⟩, .refers .eager (enumReference e.config f.type),
    List.mem_append_left _ (List.mem_cons_of_mem _ ?_), rfl⟩
  unfold validatorLine
  rw [hd f hf]
  exact List.mem_append_left _ hline

theorem exists_use_of_mem_localNames (hd : m.HasNoDirectives) {x : Text}
    (hx : x ∈ e.localNames m) :
    (∃ ls ∈ e.helperSections m, ∃ u, (u, x) ∈ usesIn ls) ∨
      ∃ u, (u, x) ∈ usesIn (e.scalarSection m) := by
  rcases mem_localNames_iff.1 hx with rfl | ⟨hu, rfl⟩ | ⟨hu, hx⟩ | ⟨f, hf, rfl⟩
  · exact .inr ⟨.eager, eager_z_mem_scalarSection⟩
  · refine .inl ⟨decimalHelperLines, List.mem_append_right _ ?_, .eager, by decide +kernel⟩
    exact List.mem_ite_nil_right.2 ⟨hu, List.mem_singleton_self _⟩
  · have huses : ∀ y ∈ jsonHelperNames, ∃ p ∈ usesIn (jsonHelperLines e.config), p.2 = y := by
      unfold jsonHelperLines
      cases e.config.prismaJsonNullability <;> decide +kernel
    obtain ⟨p, hp, rfl⟩ := huses x hx
    refine .inl ⟨jsonHelperLines e.config, List.mem_append_left _ ?_, p.1, hp⟩
    exact List.mem_ite_nil_right.2 ⟨hu, List.mem_singleton_self _⟩
  · exact .inr ⟨.eager, eager_enum_mem_scalarSection hd hf⟩

theorem type_mem_completeSection :
    (.type, completeTypeName m.name) ∈ usesIn (e.completeSection m) := by
  unfold usesIn completeSection
  dsimp only
  rw [collect_append, collect_append]
  refine List.mem_append_left _ (List.mem_append_left _ ?_)
  simp [collect, Piece.use?]

/-- A name is deferred exactly if it is none of the own names. -/
theorem isDeferred_iff (hd : m.HasNoDirectives) {x : Text} :
    IsDeferred e m x ↔ x ∉ e.ownNames m := by
  unfold ownNames
  rw [List.mem_append, List.mem_append]
  constructor
  · rintro h ((hx | hx) | hx)
    · rcases exists_use_of_mem_localNames hd hx with ⟨ls, hls, u, hx⟩ | ⟨u, hx⟩
      · exact h.helpers ls hls u hx
      · exact h.schema u hx
    · exact h.global hx
    · obtain ⟨hn, hx⟩ := List.mem_ite_nil_right.1 hx
      rw [List.mem_singleton.1 hx] at h
      exact absurd (h.complete hn _ type_mem_completeSection) (by decide)
  · intro h
    obtain ⟨h, hinterface⟩ := not_or.1 h
    obtain ⟨hlocal, hglobal⟩ := not_or.1 h
    refine ⟨fun ls hls u hx => ?_, fun u hx => ?_, hglobal, fun _ u hx => ?_, fun hn u hx => ?_⟩
    · exact hlocal (mem_localNames_of_helperSections hls hx)
    · exact hlocal (mem_localNames_of_scalarSection hx)
    · exact (of_mem_usesIn_interfaceSection hx).1
    · rcases of_mem_usesIn_completeSection hx with rfl | ⟨-, rfl⟩ | ⟨hu, -⟩
      · exact absurd z_mem_localNames hlocal
      · exact absurd (List.mem_ite_nil_right.2 ⟨hn, List.mem_singleton_self _⟩) hinterface
      · exact hu

end Emitter

end ValidatorGen
