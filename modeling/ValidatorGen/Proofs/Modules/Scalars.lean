import Mathlib.Algebra.GroupWithZero.Nat
import ValidatorGen.Emit.Modules
import ValidatorGen.Proofs.Text

/-!
# Models without their relations

Where no schemas with relations are generated, the relations of a model should not show in its
module.  The imports of enumerations, the helper for JSON values and the schema itself keep to the
fields that are no relations; the helper for decimals is the one part that asks every field.

* `importLines_withoutRelations`, `scalarSchema_withoutRelations` — the parts that do not change;
* `modelModule_of_usesDecimal` — nor does the module, as long as the need for decimals is the same;
* `length_joinSections` — a module is as long as its lines, so that a line more shows;
* `modelModule_withoutRelations_iff` — a relation shows exactly if it alone brings the helper for
  decimals.
-/

namespace ValidatorGen

open Emit

/-- The model with its relations left out. -/
def Model.withoutRelations (m : Model) : Model := { m with fields := m.scalarFields }

/-- The field asks for the helper for decimals. -/
def Field.asksDecimal (f : Field) : Bool :=
  f.hasType .decimal && (Documentation.ofText? f.documentation?).custom?.isNone

/-! ## What reads only the other fields -/

namespace Model

theorem filter_withoutRelations {p : Field → Bool} (hp : ∀ f, p f = true → f.isRelation = false)
    (m : Model) : m.withoutRelations.fields.filter p = m.fields.filter p := by
  unfold withoutRelations scalarFields
  rw [List.filter_filter]
  refine List.filter_congr fun f _ => ?_
  cases h : p f with
  | false => rfl
  | true => simp [hp f h]

@[simp] theorem scalarFields_withoutRelations (m : Model) :
    m.withoutRelations.scalarFields = m.scalarFields :=
  filter_withoutRelations (fun _ h => by simpa using h) m

@[simp] theorem enumFields_withoutRelations (m : Model) :
    m.withoutRelations.enumFields = m.enumFields :=
  filter_withoutRelations (fun f h => by simp_all [Field.isEnum, Field.isRelation]) m

end Model

namespace Emitter

variable {e : Emitter} {m : Model}

@[simp] theorem usesJson_withoutRelations (m : Model) :
    usesJson m.withoutRelations = usesJson m := by
  unfold usesJson Model.withoutRelations Model.scalarFields
  rw [List.any_filter]
  refine congrArg (m.fields.any ·) (funext fun f => ?_)
  cases f.isRelation <;> simp

theorem scalarSchema_withoutRelations (e : Emitter) (m : Model) :
    e.scalarSchema m.withoutRelations = e.scalarSchema m := by
  unfold scalarSchema
  rw [Model.scalarFields_withoutRelations]
  rfl

theorem enumImports_withoutRelations (e : Emitter) (m : Model) :
    e.enumImports m.withoutRelations = e.enumImports m := by
  unfold enumImports
  rw [Model.enumFields_withoutRelations]

theorem usesDecimal_eq (e : Emitter) (m : Model) :
    e.usesDecimal m = (e.config.useDecimalJs && m.fields.any Field.asksDecimal) := rfl

theorem needsComplete_of_none (h : e.config.relationMode = .none) (m : Model) :
    e.needsComplete m = false := by
  simp [needsComplete, Config.relationsEnabled, h]

/-- A default that cannot be written is not one of a relation. -/
theorem brokenJournal?_withoutRelations (e : Emitter) (m : Model) :
    e.brokenJournal? [m.withoutRelations] = none ↔ e.brokenJournal? [m] = none := by
  unfold brokenJournal?
  rw [Model.scalarFields_withoutRelations]
  cases m.scalarFields.any Field.isUnwritable <;> simp [brokenJournal?]

theorem namedImports_withoutRelations (h : e.config.relationMode = .none) (m : Model) :
    e.namedImports m.withoutRelations = e.namedImports m := by
  unfold namedImports relationImports
  rw [enumImports_withoutRelations, needsComplete_of_none h, needsComplete_of_none h]
  rfl

/-- The module is the same if decimals are needed as before. -/
theorem modelModule_of_usesDecimal (h : e.config.relationMode = .none)
    (hd : e.usesDecimal m.withoutRelations = e.usesDecimal m) :
    e.modelModule m.withoutRelations = e.modelModule m := by
  unfold modelModule sections importLines helpers
  rw [namedImports_withoutRelations h, hd, scalarSchema_withoutRelations, usesJson_withoutRelations,
    needsComplete_of_none h, needsComplete_of_none h]
  rfl

/-! ## How long a module is -/

theorem length_join (sep t : Text) (ts : List Text) :
    (Text.join sep (t :: ts)).length + sep.length
      = ((t :: ts).map fun u => u.length + sep.length).sum := by
  rw [Text.join_cons, List.length_append, List.length_flatMap, List.map_cons, List.sum_cons]
  simp only [List.length_append, Nat.add_comm sep.length]
  omega

/-- A line more makes a text longer. -/
theorem length_join_lt (t l : Text) (us vs : List Text) :
    (Text.join "\n" (t :: (us ++ vs))).length < (Text.join "\n" (t :: (us ++ l :: vs))).length := by
  have h := length_join "\n" t (us ++ vs)
  have h' := length_join "\n" t (us ++ l :: vs)
  simp only [List.map_cons, List.map_append, List.sum_cons, List.sum_append] at h h'
  have hl : 0 < ("\n" : Text).length := by decide
  omega

/-- What sections add to the length of a module. -/
def lengthOf (ss : List (List Text)) : Nat :=
  ((ss.filter (!·.isEmpty)).map fun s => (Text.join "\n" s).length + 2).sum

theorem lengthOf_append (ss ts : List (List Text)) :
    lengthOf (ss ++ ts) = lengthOf ss + lengthOf ts := by
  simp [lengthOf]

theorem lengthOf_cons {s : List Text} (hs : s.isEmpty = false) (ss : List (List Text)) :
    lengthOf (s :: ss) = (Text.join "\n" s).length + 2 + lengthOf ss := by
  simp [lengthOf, hs]

/-- Two line feeds stand between sections, and one at the end. -/
theorem length_joinSections {s : List Text} (hs : s.isEmpty = false) (ss : List (List Text)) :
    (joinSections (s :: ss)).length + 1 = lengthOf (s :: ss) := by
  have h := length_join "\n\n" (Text.join "\n" s)
    ((ss.filter (!·.isEmpty)).map (Text.join "\n" ·))
  rw [← List.map_cons (f := (Text.join "\n" ·)), List.map_map] at h
  unfold joinSections lengthOf
  rw [List.filter_cons_of_pos (by rw [hs]; rfl), List.length_append]
  exact h

/-- What the imports of a module and its other sections add to its length. -/
theorem length_modelModule (e : Emitter) (m : Model) : (e.modelModule m).length + 1
    = (Text.join "\n" (e.importLines m)).length + 2 + lengthOf (e.sections m).tail := by
  have hne : (e.importLines m).isEmpty = false := rfl
  have hsections : e.sections m = e.importLines m :: (e.sections m).tail := rfl
  unfold modelModule
  rw [hsections, length_joinSections hne, lengthOf_cons hne]
  rfl

theorem length_modelModule_lt (h : e.config.relationMode = .none)
    (hd : e.usesDecimal m.withoutRelations = false) (hd' : e.usesDecimal m = true) :
    (e.modelModule m.withoutRelations).length < (e.modelModule m).length := by
  have himports : (Text.join "\n" (e.importLines m.withoutRelations)).length
      < (Text.join "\n" (e.importLines m)).length := by
    unfold importLines
    rw [hd, hd', namedImports_withoutRelations h]
    simp only [Bool.false_eq_true, if_false, if_true, List.append_nil, List.cons_append,
      List.append_assoc, List.nil_append]
    exact length_join_lt _ _ _ _
  -- The imports get longer, and no section gets shorter.
  have htail : ∀ m, (e.sections m).tail = e.helpers m ++ [e.scalarSchema m] := by
    intro m
    unfold sections
    rw [needsComplete_of_none h]
    rfl
  have hhelpers : lengthOf (e.helpers m.withoutRelations) ≤ lengthOf (e.helpers m) := by
    unfold helpers
    rw [hd, hd', usesJson_withoutRelations, lengthOf_append, lengthOf_append]
    exact Nat.add_le_add_left (Nat.zero_le _) _
  have h₁ := length_modelModule e m
  have h₂ := length_modelModule e m.withoutRelations
  rw [htail, lengthOf_append] at h₁ h₂
  rw [scalarSchema_withoutRelations] at h₂
  omega

/-! ## Whether a relation shows -/

/-- A relation alone asks for the helper for decimals. -/
structure AsksDecimalByRelation (e : Emitter) (m : Model) : Prop where
  enabled : e.config.useDecimalJs = true
  asks : ∃ f ∈ m.fields, f.isRelation = true ∧ f.asksDecimal = true
  alone : ∀ f ∈ m.fields, f.asksDecimal = true → f.isRelation = true

theorem usesDecimal_of_withoutRelations (h : e.usesDecimal m.withoutRelations = true) :
    e.usesDecimal m = true := by
  rw [usesDecimal_eq, Bool.and_eq_true, List.any_eq_true] at h ⊢
  obtain ⟨henabled, f, hf, hasks⟩ := h
  exact ⟨henabled, f, (List.mem_filter.1 hf).1, hasks⟩

theorem asksDecimalByRelation_iff : AsksDecimalByRelation e m ↔
    e.usesDecimal m.withoutRelations = false ∧ e.usesDecimal m = true := by
  have hmem : ∀ f, f ∈ m.withoutRelations.fields ↔ f ∈ m.fields ∧ f.isRelation = false := by
    simp [Model.withoutRelations, Model.scalarFields]
  rw [usesDecimal_eq, usesDecimal_eq, Bool.and_eq_true, List.any_eq_true, Bool.and_eq_false_iff,
    List.any_eq_false]
  constructor
  · rintro ⟨henabled, ⟨f, hf, -, hasks⟩, halone⟩
    refine ⟨.inr fun g hg hg' => ?_, henabled, f, hf, hasks⟩
    obtain ⟨hg, hscalar⟩ := (hmem g).1 hg
    rw [halone g hg hg'] at hscalar
    cases hscalar
  · rintro ⟨hwithout, henabled, f, hf, hasks⟩
    have hnone := hwithout.resolve_left (by simp [henabled])
    have halone : ∀ g ∈ m.fields, g.asksDecimal = true → g.isRelation = true := fun g hg hg' =>
      Bool.of_not_eq_false fun hscalar => hnone g ((hmem g).2 ⟨hg, hscalar⟩) hg'
    exact ⟨henabled, ⟨f, hf, halone f hf hasks, hasks⟩, halone⟩

/-- **Relations that are not generated do not show.**  Without schemas with relations the module of
a model can be written if that of the model without its relations can be, and it is the same, unless
a relation alone asks for the helper for decimals. -/
theorem modelModule_withoutRelations_iff (e : Emitter) (m : Model)
    (h : e.config.relationMode = .none) :
    (e.brokenJournal? [m.withoutRelations] = none ↔ e.brokenJournal? [m] = none) ∧
      (e.modelModule m.withoutRelations = e.modelModule m ↔ ¬ AsksDecimalByRelation e m) := by
  refine ⟨brokenJournal?_withoutRelations e m, ?_⟩
  rw [asksDecimalByRelation_iff]
  constructor
  · rintro heq ⟨hd, hd'⟩
    exact absurd (congrArg List.length heq) (Nat.ne_of_lt (length_modelModule_lt h hd hd'))
  · intro hasks
    refine modelModule_of_usesDecimal h ?_
    cases hd : e.usesDecimal m.withoutRelations with
    | true => exact (usesDecimal_of_withoutRelations hd).symm
    | false => exact (eq_false_of_ne_true fun hd' => hasks ⟨hd, hd'⟩).symm

/-- A user with posts, and no word of them in its module. -/
theorem modelModule_withoutRelations_posts :
    let e : Emitter := .ofOptions [] false { relationMode := .none } {} .empty
    let m : Model := { name := "User", fields := [{ name := "id", type := "Int" },
      { name := "posts", kind := .relation, type := "Post", isList := true }] }
    e.config.relationMode = .none ∧ ¬ AsksDecimalByRelation e m ∧
      e.brokenJournal? [m.withoutRelations] = none ∧
      e.modelModule m.withoutRelations = e.modelModule m := by
  intro e m
  have hasks : ¬ AsksDecimalByRelation e m := by
    rw [asksDecimalByRelation_iff]
    decide
  have hwritable : e.brokenJournal? [m] = none := by decide
  obtain ⟨hbroken, hsame⟩ := modelModule_withoutRelations_iff e m rfl
  exact ⟨rfl, hasks, hbroken.2 hwritable, hsame.2 hasks⟩

/-- A price that is a model called `Decimal` brings the helper for decimals, and the import that the
helper needs. -/
theorem not_modelModule_withoutRelations :
    let e : Emitter := .ofOptions [] false { relationMode := .none } {} .empty
    let m : Model := { name := "User", fields := [{ name := "id", type := "Int" },
      { name := "price", kind := .relation, type := "Decimal" }] }
    e.config.relationMode = .none ∧ e.brokenJournal? [m] = none ∧
      e.modelModule m.withoutRelations ≠ e.modelModule m := by
  decide +kernel

end Emitter

end ValidatorGen
