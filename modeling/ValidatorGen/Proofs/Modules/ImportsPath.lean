import ValidatorGen.Proofs.Modules.Scalars
import ValidatorGen.Proofs.Modules.Strings
import ValidatorGen.Proofs.Ordered

/-!
# A path that names no module

Directives know one module as `imports`.  The check says of a path to it that is empty or blank that
it is ignored; the emitter ignores the empty path alone, and takes a blank one for the name of a
file.

* `modelModule_withoutImports`, `length_modelModule_withoutImports_lt` — the module of a model has a
  line less without `imports`, unless there is none;
* `generate_withoutImports_iff` — so that the files tell whether there is one;
* `render_withoutImports_iff` — when a path that the check says is ignored is ignored.
-/

namespace ValidatorGen

/-- The same settings without a module for directives. -/
def Config.withoutImports (c : Config) : Config := { c with imports? := none }

namespace Emitter

/-- The same emitter without a module for directives. -/
def withoutImports (e : Emitter) : Emitter :=
  { e with config := e.config.withoutImports, importsModule? := none }

variable {e : Emitter} {m : Model} {d : DataModel}

/-! ## Modules without `imports` -/

/-- Nothing but the import statements knows of the module for directives. -/
theorem tail_sections_withoutImports (e : Emitter) (m : Model) :
    (e.withoutImports.sections m).tail = (e.sections m).tail := rfl

theorem modelModule_withoutImports (h : e.importsModule? = none) (m : Model) :
    e.withoutImports.modelModule m = e.modelModule m := by
  have himports : e.withoutImports.importLines m = e.importLines m := by
    unfold importLines
    rw [h]
    rfl
  have hsections : ∀ e : Emitter, e.sections m = e.importLines m :: (e.sections m).tail :=
    fun _ => rfl
  unfold modelModule
  rw [hsections, hsections e, tail_sections_withoutImports, himports]

theorem length_modelModule_withoutImports_lt {module : Text} (h : e.importsModule? = some module)
    (m : Model) : (e.withoutImports.modelModule m).length < (e.modelModule m).length := by
  have himports : (Text.join "\n" (e.withoutImports.importLines m)).length
      < (Text.join "\n" (e.importLines m)).length := by
    unfold importLines
    rw [h]
    exact length_join_lt _ _ [] _
  have h₁ := length_modelModule e m
  have h₂ := length_modelModule e.withoutImports m
  rw [tail_sections_withoutImports] at h₂
  omega

/-! ## Files without `imports` -/

/-- The last model has its module among the files, whatever other models are called. -/
theorem get?_generate_concat {ms : List Model} (h : d.models = ms ++ [m]) :
    Ordered.get? (moduleFileName m.name) (e.generate d) = some (e.modelModule m) := by
  unfold generate allModules
  dsimp only
  rw [Ordered.get?_ofList, h]
  simp only [List.map_append, List.map_cons, List.map_nil, List.reverse_cons, List.reverse_append,
    List.reverse_nil, List.nil_append, List.cons_append, List.append_assoc, Ordered.get?_cons,
    beq_self_eq_true, if_true]

theorem generate_withoutImports_iff (e : Emitter) (d : DataModel) :
    e.withoutImports.generate d = e.generate d ↔ e.importsModule? = none ∨ d.models = [] := by
  constructor
  · intro heq
    by_contra hnot
    obtain ⟨hsome, hmodels⟩ := not_or.1 hnot
    obtain ⟨module, hmodule⟩ := Option.ne_none_iff_exists'.1 hsome
    obtain ⟨ms, m, hlast⟩ := (List.eq_nil_or_concat' d.models).resolve_left hmodels
    have hget := congrArg (Ordered.get? (moduleFileName m.name)) heq
    rw [get?_generate_concat hlast, get?_generate_concat hlast, Option.some.injEq] at hget
    have hlength := length_modelModule_withoutImports_lt hmodule m
    rw [hget] at hlength
    omega
  · intro h
    have hmap : d.models.map (fun m => (moduleFileName m.name, e.withoutImports.modelModule m))
        = d.models.map fun m => (moduleFileName m.name, e.modelModule m) := by
      rcases h with h | h
      · simp only [modelModule_withoutImports h]
      · simp [h]
    unfold generate allModules
    dsimp only
    rw [hmap]
    rfl

theorem brokenJournal?_withoutImports (e : Emitter) (ms : List Model) :
    e.withoutImports.brokenJournal? ms = e.brokenJournal? ms := by
  induction ms with
  | nil => rfl
  | cons m ms ih =>
    unfold brokenJournal?
    rw [ih]
    rfl

end Emitter

/-! ## Runs without `imports` -/

theorem warns_imports_iff (c : Config) : Warns c "EMPTY_IMPORTS_PATH" ↔
    ∃ path, c.imports? = some path ∧ Text.isBlankText path = true := by
  refine (warns_iff (f := .emptyImportsPath) fun g hg => ?_).trans ?_
  · cases g <;> first | rfl | (simp only [Check.Finding.code] at hg; exact absurd hg (by decide))
  · simp [Check.settingsFindings, Option.any_eq_true]

namespace Run

variable {disk : Disk} {c : Config} {d : DataModel} {o : Options} {e : Emitter}

/-- Without `imports` the disk is not asked for a folder. -/
theorem emitterOn_withoutImports (disk : Disk) (ms : List Model) (c : Config) (o : Options)
    (hints : Native.Hints) : emitterOn disk ms c.withoutImports o hints
      = .ok (.ofOptions disk.cwd false c.withoutImports o hints) := by
  have hasked : Emitter.askedSource? c.withoutImports o = none := rfl
  unfold emitterOn
  rw [hasked]
  cases ms <;> rfl

/-- Apart from `imports`, the disk makes no difference for the emitter. -/
theorem withoutImports_of_emitterOn {ms : List Model} {hints : Native.Hints}
    (h : emitterOn disk ms c o hints = .ok e) :
    Emitter.ofOptions disk.cwd false c.withoutImports o hints = e.withoutImports ∧
      (e.importsModule? = none ↔ c.imports? = none ∨ c.imports? = some []) := by
  have hmodule : ∀ b, (Emitter.importsModuleOf disk.cwd b c o = none ↔
      c.imports? = none ∨ c.imports? = some []) := by
    intro b
    unfold Emitter.importsModuleOf
    rcases c.imports? with _ | _ | ⟨a, path⟩ <;> simp
  unfold emitterOn at h
  split at h
  · next p _ =>
    cases hp : disk.isFolder p with
    | error f =>
      rw [hp] at h
      cases h
    | ok b =>
      rw [hp] at h
      cases h
      exact ⟨rfl, hmodule b⟩
  · cases h
    exact ⟨rfl, hmodule false⟩

/-- The disk refuses no emitter that has no path to look for, or no model to look for it. -/
theorem emitterOn_ne_error {ms : List Model} {hints : Native.Hints} {f : DiskFault}
    (h : c.imports? = some [] ∨ ms = []) : emitterOn disk ms c o hints ≠ .error f := by
  intro hf
  unfold emitterOn at hf
  split at hf
  · next hasked =>
    rcases h with h | h
    · rw [Emitter.askedSource?, h] at hasked
      cases hasked
    · cases h
  · cases hf

/-- The files that generation gives, or why there are none. -/
def filesOf (x : Except Escape (Files × Journal)) : Except Escape Files := x.map Prod.fst

/-- Two generations give no files, for one reason. -/
def FailAlike (x y : Except Escape Files) : Prop := ∃ f, x = .error f ∧ y = .error f

theorem filesOf_renderWith_withoutImports (h : c.imports? ≠ none) (disk : Disk) (d : DataModel)
    (o : Options) (hints : Native.Hints) (j : Journal) :
    let files := filesOf (renderWith disk ⟨d, c, o⟩ hints j)
    let files' := filesOf (renderWith disk ⟨d, c.withoutImports, o⟩ hints j)
    files = files' ↔ c.imports? = some [] ∨ d.models = [] ∨ FailAlike files files' := by
  unfold renderWith FailAlike
  dsimp only
  rw [emitterOn_withoutImports]
  cases he : emitterOn disk d.models c o hints with
  | error f =>
    -- the disk is asked only if there is a path
    have hpath : ¬ (c.imports? = some [] ∨ d.models = []) := fun hp => emitterOn_ne_error hp he
    obtain ⟨hpath, hmodels⟩ := not_or.1 hpath
    dsimp only
    split <;> simp [filesOf, Except.map, hpath, hmodels]
  | ok e =>
    obtain ⟨heq, hmodule⟩ := withoutImports_of_emitterOn he
    rw [heq]
    dsimp only
    unfold Emitter.emission
    rw [Emitter.brokenJournal?_withoutImports]
    cases e.brokenJournal? d.models with
    | some _ => simp [filesOf, Except.map]
    | none =>
      have hfiles := Emitter.generate_withoutImports_iff e d
      rw [hmodule, or_iff_right h, eq_comm] at hfiles
      simp [filesOf, Except.map, hfiles]

/-- **A path that the check says is ignored.**  A run with it gives the same files as one without
`imports` exactly if it is the empty text, or there is no model, or neither gives files and both say
the same. -/
theorem render_withoutImports_iff (h : Warns c "EMPTY_IMPORTS_PATH") (disk : Disk) (d : DataModel)
    (o : Options) (given? : Option Native.Hints) :
    let files := filesOf (render disk ⟨d, c, o⟩ given?)
    let files' := filesOf (render disk ⟨d, c.withoutImports, o⟩ given?)
    files = files' ↔ c.imports? = some [] ∨ d.models = [] ∨ FailAlike files files' := by
  obtain ⟨path, hpath, -⟩ := (warns_imports_iff c).1 h
  have hsome : c.imports? ≠ none := by simp [hpath]
  cases given? with
  | some hints =>
    rw [render_some, render_some]
    exact filesOf_renderWith_withoutImports hsome disk d o hints []
  | none =>
    rw [render_none, render_none]
    dsimp only
    cases Native.resolve disk o.schemaPath? with
    | error f => simp [filesOf, Except.map, FailAlike]
    | ok x => exact filesOf_renderWith_withoutImports hsome disk d o x.1 x.2

/-- The check says the same of the empty path and of a blank, and only the first one is ignored. -/
theorem render_withoutImports_empty :
    let d : DataModel :=
      { models := [{ name := "User", fields := [{ name := "id", type := "Int" }] }] }
    let files : Config → Except Escape Files := fun c =>
      filesOf (render default ⟨d, c, {}⟩ (some .empty))
    let empty : Config := { imports? := some "" }
    let blank : Config := { imports? := some " " }
    Warns empty "EMPTY_IMPORTS_PATH" ∧ files empty = files empty.withoutImports ∧
      Warns blank "EMPTY_IMPORTS_PATH" ∧ files blank ≠ files blank.withoutImports := by
  intro d files empty blank
  have hempty : Warns empty "EMPTY_IMPORTS_PATH" := (warns_imports_iff _).2 ⟨"", rfl, rfl⟩
  have hblank : Warns blank "EMPTY_IMPORTS_PATH" := (warns_imports_iff _).2 ⟨" ", rfl, by decide⟩
  refine ⟨hempty, ?_, hblank, fun heq => ?_⟩
  · exact (render_withoutImports_iff hempty default d {} (some .empty)).2 (.inl rfl)
  · rcases (render_withoutImports_iff hblank default d {} (some .empty)).1 heq with h | h | h
    · exact absurd h (by decide)
    · cases h
    · obtain ⟨f, hf, -⟩ := h
      cases hf

/-- A blank path makes its way into the module of a model. -/
theorem not_render_withoutImports :
    let c : Config := { imports? := some "  " }
    let d : DataModel :=
      { models := [{ name := "User", fields := [{ name := "id", type := "Int" }] }] }
    let disk : Disk := ⟨.folder [], ["work", "project"]⟩
    Warns c "EMPTY_IMPORTS_PATH" ∧
      filesOf (render disk ⟨d, c, {}⟩ (some .empty))
        ≠ filesOf (render disk ⟨d, c.withoutImports, {}⟩ (some .empty)) := by
  intro c d disk
  refine ⟨(warns_imports_iff _).2 ⟨"  ", rfl, by decide⟩, fun heq => ?_⟩
  have hfiles := congrArg (Option.bind · (Ordered.get? ("user.ts" : Text)))
    (congrArg Except.toOption heq)
  have hline : ("import * as imports from '../  '" : Text) <:+:
      ((filesOf (render disk ⟨d, c, {}⟩ (some .empty))).toOption.bind
        (Ordered.get? ("user.ts" : Text))).getD [] := by decide +kernel
  rw [hfiles] at hline
  exact absurd hline (by decide +kernel)

end Run

end ValidatorGen
