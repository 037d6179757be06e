import Mathlib.Logic.Relation
import ValidatorGen.Proofs.Outline.Deferred
import ValidatorGen.Proofs.Outline.Run

/-!
# Loading the modules of a run

A file of a run has to be loaded before another one if the latter needs a name of it while it is
loaded itself.  Models that refer to each other in a circle meet in the index; the circle is broken
because no module needs the names of the index at once.

* `rank_lt_of_loads` — the index comes last and the enumerations first;
* `cyclic_of_isEager` — a single name of the index that is needed at once makes a circle;
* `loading_acyclic` — the bases of the fields, the names of the index, and the circles.
-/

namespace ValidatorGen.Emitter

open Emit Outline

variable {e : Emitter} {d : DataModel} {m : Model}

/-! ## Files that need each other -/

/-- The module of this name is a file of the run. -/
def Leads (e : Emitter) (d : DataModel) (module file : Text) : Prop :=
  Script.fileOf? module = some file ∧ file ∈ e.fileNames d

/-- To load the first file, the second one has to be loaded before: the index exports its names
again, or a name of it is needed at once. -/
inductive Loads (e : Emitter) (d : DataModel) : Text → Text → Prop
  | index {s file : Text} (hs : s ∈ indexTargets d.models (e.emitsEnums d))
    (hfile : e.Leads d s file) : Loads e d "index.ts" file
  | enums {s x file : Text} (he : e.emitsEnums d = true)
    (hx : x ∈ (e.enumsOutline d.enums).takenFrom s)
    (huse : (.eager, x) ∈ (e.enumsOutline d.enums).uses) (hfile : e.Leads d s file) :
    Loads e d "enums.ts" file
  | model {m : Model} {s x file : Text} (hm : m ∈ d.models) (hx : x ∈ (e.outline m).takenFrom s)
    (huse : IsEager e m x) (hfile : e.Leads d s file) : Loads e d (moduleFileName m.name) file

/-- The modules that come from outside are none of the run, and no model takes the file of the index
or of the enumerations. -/
structure IsApart (e : Emitter) (d : DataModel) : Prop where
  zod : ∀ file, ¬ e.Leads d e.config.zodImport file
  client : ∀ file, ¬ e.Leads d e.clientModule file
  imports : ∀ i, e.importsModule? = some i → ∀ file, ¬ e.Leads d i file
  index : ∀ m ∈ d.models, moduleFileName m.name ≠ "index.ts"
  enums : e.config.useStandaloneEnums = true → ∀ m ∈ d.models, moduleFileName m.name ≠ "enums.ts"

/-! ## Ranks -/

/-- The enumerations come first, then the models, then the index. -/
def rank (file : Text) : Nat :=
  if file = "index.ts" then 2 else if file = "enums.ts" then 0 else 1

theorem rank_lt_two {file : Text} (h : file ≠ "index.ts") : rank file < 2 := by
  unfold rank
  rw [if_neg h]
  split_ifs <;> decide

theorem ne_index_of_leads (h : IsApart e d) {s file : Text}
    (hs : s ∈ indexTargets d.models (e.emitsEnums d)) (hfile : e.Leads d s file) :
    file ≠ "index.ts" := by
  obtain ⟨hfile, -⟩ := hfile
  unfold indexTargets at hs
  rcases List.mem_append.1 hs with hs | hs
  · obtain ⟨m, hm, rfl⟩ := List.mem_map.1 hs
    cases (fileOf?_append _).symm.trans hfile
    exact h.index m hm
  · rw [List.mem_singleton.1 (List.mem_ite_nil_right.1 hs).2] at hfile
    cases hfile
    decide

section

variable (h : IsApart e d)
  (hindex : ∀ m ∈ d.models, ∀ x ∈ (e.outline m).takenFrom "./index", ¬ IsEager e m x)

include h hindex

/-- Whatever is needed before a file stands below it. -/
theorem rank_lt_of_loads {a b : Text} (hab : Loads e d a b) : rank b < rank a := by
  cases hab with
  | index hs hfile => exact rank_lt_two (ne_index_of_leads h hs hfile)
  | enums he hx _ hfile => exact absurd (zodImport_of_mem_takenFrom hx ▸ hfile) (h.zod b)
  | @model m s x _ hm hx huse hfile =>
    rcases mem_takenFrom_outline.1 hx with ⟨rfl, -⟩ | ⟨hi, -⟩ | himported
    · exact absurd hfile (h.zod b)
    · exact absurd hfile (h.imports s hi b)
    · -- of the generated modules, only that of the enumerations is left: a name of the index is
      -- not needed at once
      cases himported with
      | decimal =>
        have hnone : Script.fileOf? "decimal.js" = none := by decide
        exact absurd (hnone.symm.trans hfile.1) (by simp)
      | enumSchema hs _ =>
        obtain rfl : ("enums.ts" : Text) = b := Option.some.inj hfile.1
        unfold rank
        rw [if_neg (h.index m hm), if_neg (h.enums hs m hm)]
        decide
      | clientEnum => exact absurd hfile (h.client b)
      | interface => exact absurd huse (hindex m hm _ hx)
      | relatedSchema => exact absurd huse (hindex m hm _ hx)

theorem rank_lt_of_transGen {a b : Text} (hab : Relation.TransGen (Loads e d) a b) :
    rank b < rank a := by
  induction hab with
  | single hab => exact rank_lt_of_loads h hindex hab
  | tail _ hbc ih => exact Nat.lt_trans (rank_lt_of_loads h hindex hbc) ih

end

/-! ## Circles -/

/-- The index needs all models, so that a model must not need the index. -/
theorem cyclic_of_isEager (hm : m ∈ d.models) {x : Text}
    (hx : x ∈ (e.outline m).takenFrom "./index") (huse : IsEager e m x) :
    Relation.TransGen (Loads e d) (moduleFileName m.name) (moduleFileName m.name) := by
  have hfile : moduleFileName m.name ∈ e.fileNames d :=
    List.mem_cons_of_mem _ (List.mem_append_right _ (List.mem_map_of_mem hm))
  have hback : Loads e d "index.ts" (moduleFileName m.name) :=
    .index (List.mem_append_left _ (List.mem_map_of_mem hm)) ⟨fileOf?_append _, hfile⟩
  exact .tail (.single (.model hm hx huse ⟨rfl, List.mem_cons_self⟩)) hback

/-- **Loading without circles.**  Without directives, the bases of a model's own fields are their
own, whatever the model is related to, and a name of the index that is none of the own names is only
needed in types of the interface and behind `z.lazy`.  So if all names of the index are such, no two
files need each other in a circle. -/
theorem loading_acyclic (hd : ∀ m ∈ d.models, m.HasNoDirectives) :
    (∀ m ∈ d.models, ∀ f ∈ m.scalarFields,
      IsOwnBase e.config f (e.scalarExpression m.name f).base) ∧
    (∀ m ∈ d.models, joinSections (e.outline m).render = e.modelModule m ∧
      ∀ x ∈ (e.outline m).takenFrom "./index", x ∉ e.ownNames m →
        IsDeferred e m x ∧ ¬ IsEager e m x) ∧
    (IsApart e d → (∀ m ∈ d.models, ∀ x ∈ (e.outline m).takenFrom "./index", x ∉ e.ownNames m) →
      ∀ file, ¬ Relation.TransGen (Loads e d) file file) := by
  have hlater : ∀ m ∈ d.models, ∀ x, x ∉ e.ownNames m → IsDeferred e m x := fun m hm x hx =>
    (isDeferred_iff (hd m hm)).2 hx
  refine ⟨fun m hm f hf => isOwnBase_scalarExpression (hd m hm) hf, fun m hm => ⟨?_, ?_⟩, ?_⟩
  · rw [render_outline]
    rfl
  · exact fun x _ hx => ⟨hlater m hm x hx, (hlater m hm x hx).not_isEager⟩
  · intro h hown file hcycle
    have hindex : ∀ m ∈ d.models, ∀ x ∈ (e.outline m).takenFrom "./index", ¬ IsEager e m x :=
      fun m hm x hx => (hlater m hm x (hown m hm x hx)).not_isEager
    exact absurd (rank_lt_of_transGen h hindex hcycle) (Nat.lt_irrefl _)

/-- A model that refers to itself and, in a circle, to another one. -/
theorem loading_acyclic_blog :
    let avatar : Field := { name := "avatar", type := "Bytes" }
    let role : Field := { name := "role", kind := .enum, type := "Role" }
    let friend : Field := { name := "friend", kind := .relation, type := "User" }
    let posts : Field := { name := "posts", kind := .relation, type := "Post", isList := true }
    let author : Field := { name := "author", kind := .relation, type := "User" }
    let e : Emitter := ⟨{ useStandaloneEnums := true }, .empty, "@prisma/client", none⟩
    let d : DataModel := ⟨[{ name := "User", fields := [avatar, role, friend, posts] },
      { name := "Post", fields := [author] }], [⟨"Role", ["ADMIN"]⟩]⟩
    IsApart e d ∧ Loads e d "index.ts" "user.ts" ∧ Loads e d "user.ts" "enums.ts" ∧
      ∀ file, ¬ Relation.TransGen (Loads e d) file file := by
  intro avatar role friend posts author e d
  have hd : ∀ m ∈ d.models, m.HasNoDirectives := by
    unfold Model.HasNoDirectives
    decide +kernel
  have hout : Script.fileOf? e.config.zodImport = none ∧ Script.fileOf? e.clientModule = none := by
    decide +kernel
  have h : IsApart e d := {
    zod := fun file hf => absurd (hout.1.symm.trans hf.1) (by simp)
    client := fun file hf => absurd (hout.2.symm.trans hf.1) (by simp)
    imports := fun i hi => absurd hi (by simp [e])
    index := by decide +kernel
    enums := by decide +kernel }
  obtain ⟨-, -, hacyclic⟩ := loading_acyclic (e := e) hd
  have hown : ∀ m ∈ d.models, ∀ x ∈ (e.outline m).takenFrom "./index", x ∉ e.ownNames m := by
    decide +kernel
  refine ⟨h, ?_, ?_, hacyclic h hown⟩
  · exact .index (s := "./user") (by decide +kernel) ⟨by decide +kernel, by decide +kernel⟩
  · refine .model (m := { name := "User", fields := [avatar, role, friend, posts] })
      (s := "./enums") (x := "roleSchema") (by decide +kernel) (by decide +kernel)
      (.inl (by decide +kernel)) ⟨by decide +kernel, by decide +kernel⟩

/-- The settings may take `z` itself from the index, and every module needs it at once. -/
theorem not_loading_acyclic :
    let avatar : Field := { name := "avatar", type := "Bytes" }
    let file : Field := { name := "file", kind := .relation, type := "Buffer" }
    let owner : Field := { name := "owner", kind := .relation, type := "User" }
    let user : Model := { name := "User", fields := [avatar, file] }
    let d : DataModel := ⟨[user, { name := "Buffer", fields := [owner] }], []⟩
    let e : Emitter := ⟨{ zodImport := "./index" }, .empty, "@prisma/client", none⟩
    (Check.reportOf (Check.findings d e.config)).isValid = true ∧
      ("z" : Text) ∈ (e.outline user).takenFrom "./index" ∧ ¬ IsDeferred e user "z" ∧
      Relation.TransGen (Loads e d) "user.ts" "user.ts" := by
  intro avatar file owner user d e
  have hz : ("z" : Text) ∈ (e.outline user).takenFrom "./index" := by decide +kernel
  have heager : IsEager e user "z" := .inl (by decide +kernel)
  exact ⟨by decide +kernel, hz, fun h => h.not_isEager heager,
    cyclic_of_isEager List.mem_cons_self hz heager⟩

end ValidatorGen.Emitter
