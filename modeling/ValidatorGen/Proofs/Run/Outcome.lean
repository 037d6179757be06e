import Mathlib.Tactic.Common
import ValidatorGen.Intake.Standard.Readers
import ValidatorGen.Run.Generate

/-!
# What a run leaves behind

A run ends in one of six ways: the check stops it; the disk refuses something before the modules are
there; a default cannot be written; it is dry; its export ends early; or it is exported.

* `Ending`, `ending_work` — these ways, and that there are no others;
* `faithful_run` — by either entry, a run touches the disk only in an export, and its report holds
  the modules that `render` gives.
-/

namespace ValidatorGen.Run

/-! ## The ways to end -/

/-- The check ends the run. -/
def stops (m : Mode) (q : Intake.Request) : Bool :=
  m.strict && !passes m (Check.reportOf (Check.findings q.dataModel q.config))

/-- What ends an export early, so that there is no report. -/
def exportFault? (m : Mode) (o : Occasion) (d : Disk) (q : Intake.Request) (files : Files) :
    Option DiskFault :=
  match d.resolve (.ofText q.options.outputPath) with
  | .error f => some f
  | .ok folder => (Export.toFolder d { clean := m.clean } o folder files).fault?

/-- The report names no fault of the input. -/
def IsRead (r : RunReport) : Prop := r.inputErrors = [] ∧ r.configErrors = []

/-- The ways in which a run on a request can end: the disk behind it, and its result. -/
inductive Ending (m : Mode) (o : Occasion) (d : Disk) (q : Intake.Request)
    (given? : Option Native.Hints) : Disk → Except Escape RunReport → Prop
  | stopped {r : RunReport} (hs : stops m q = true) (hi : IsRead r) (hf : r.files = []) :
      Ending m o d q given? d (.ok r)
  | refused {e : Escape} (hs : stops m q = false) (hr : render d q given? = .error e)
      (he : e ≠ .unwritable) : Ending m o d q given? d (.error e)
  | unwritable {r : RunReport} (hs : stops m q = false)
      (hr : render d q given? = .error .unwritable) (hi : IsRead r) (hf : r.files = [])
      (hg : r.generationErrors = [unwritableMessage]) : Ending m o d q given? d (.ok r)
  | dry {r : RunReport} {j : Journal} (hs : stops m q = false)
      (hr : render d q given? = .ok (r.files, j)) (hd : m.dryRun = true) (hi : IsRead r)
      (hg : r.generationErrors = []) : Ending m o d q given? d (.ok r)
  | broken {d' : Disk} {files : Files} {j : Journal} {f : DiskFault} (hs : stops m q = false)
      (hr : render d q given? = .ok (files, j)) (hd : m.dryRun = false)
      (hx : exportFault? m o d q files = some f) : Ending m o d q given? d' (.error (.disk f))
  | exported {d' : Disk} {r : RunReport} {j : Journal} (hs : stops m q = false)
      (hr : render d q given? = .ok (r.files, j)) (hd : m.dryRun = false)
      (hx : exportFault? m o d q r.files = none) (hi : IsRead r) (hg : r.generationErrors = []) :
      Ending m o d q given? d' (.ok r)

/-! ## Step by step -/

section

variable {m : Mode} {o : Occasion} {d : Disk} {q : Intake.Request} {given? : Option Native.Hints}

/-- The modules of a request, once its hints are found. -/
def renderWith (d : Disk) (q : Intake.Request) (h : Native.Hints) (j : Journal) :
    Except Escape (Files × Journal) :=
  match emitterOn d q.dataModel.models q.config q.options h with
  | .error f => .error (.disk f)
  | .ok e =>
    match e.emission q.dataModel with
    | .ok (files, j') => .ok (files, j ++ j')
    | .error _ => .error .unwritable

theorem renderWith_eq (d : Disk) (q : Intake.Request) (h : Native.Hints) (j : Journal) :
    renderWith d q h j
      = ((emitterOn d q.dataModel.models q.config q.options h).mapError Escape.disk
        >>= fun e => match e.emission q.dataModel with
          | .ok (files, j') => pure (files, j ++ j')
          | .error _ => throw .unwritable) := by
  unfold renderWith
  cases emitterOn d q.dataModel.models q.config q.options h <;> rfl

theorem render_some (d : Disk) (q : Intake.Request) (h : Native.Hints) :
    render d q (some h) = renderWith d q h [] := (renderWith_eq d q h []).symm

/-- Without hints `render` looks for them. -/
theorem render_none (d : Disk) (q : Intake.Request) :
    render d q none = match Native.resolve d q.options.schemaPath? with
      | .error f => .error (.disk f)
      | .ok x => renderWith d q x.1 x.2 := by
  unfold render
  cases Native.resolve d q.options.schemaPath? with
  | error f => rfl
  | ok x => exact (renderWith_eq d q x.1 x.2).symm

/-- A run looks for hints as `render` does, and no fault of the input is noted on the way. -/
theorem findHints_cases (o : Occasion) (d : Disk) (q : Intake.Request)
    (given? : Option Native.Hints) {r : RunReport} (hi : IsRead r) :
    (∃ f, findHints o d q.options given? r = .error f ∧ render d q given? = .error (.disk f)) ∨
      ∃ h j r', findHints o d q.options given? r = .ok (h, j, r') ∧ IsRead r' ∧
        render d q given? = renderWith d q h j := by
  cases given? with
  | some h => exact .inr ⟨h, [], r, rfl, hi, render_some d q h⟩
  | none =>
    rw [render_none]
    unfold findHints
    cases Native.resolve d q.options.schemaPath? with
    | error f => exact .inl ⟨f, rfl, rfl⟩
    | ok x => exact .inr ⟨x.1, x.2, noteHints o q.options x.1 r, rfl, hi, rfl⟩

/-- The export of the modules in a report. -/
theorem ending_exportFiles {r : RunReport} {j j' : Journal} (hs : stops m q = false)
    (hr : render d q given? = .ok (r.files, j')) (hd : m.dryRun = false) (hi : IsRead r)
    (hg : r.generationErrors = []) :
    Ending m o d q given? (exportFiles m o d (.ofText q.options.outputPath) j r).disk
      (exportFiles m o d (.ofText q.options.outputPath) j r).result := by
  unfold exportFiles
  cases hres : d.resolve (.ofText q.options.outputPath) with
  | error f => exact .broken hs hr hd (by rw [exportFault?, hres])
  | ok folder =>
    dsimp only
    cases hf : (Export.toFolder d { clean := m.clean } o folder r.files).fault? with
    | some f => exact .broken hs hr hd (by rw [exportFault?, hres]; exact hf)
    | none => exact .exported hs hr hd (by rw [exportFault?, hres]; exact hf) hi hg

theorem emit_of_error {e : Emitter} {data : DataModel} {j : Journal}
    (h : e.emission data = .error j) (r : RunReport) :
    (emit o e data r).2 = noteFiles o data [] [unwritableMessage] r := by
  simp only [emit, h]

theorem emit_of_ok {e : Emitter} {data : DataModel} {files : Files} {j : Journal}
    (h : e.emission data = .ok (files, j)) (r : RunReport) :
    (emit o e data r).2 = noteFiles o data files [] r := by
  simp only [emit, h]

/-- A run on a request ends in one of the six ways. -/
theorem ending_work {r : RunReport} (hi : IsRead r) (hf : r.files = []) :
    Ending m o d q given? (work m o d q given? r).disk (work m o d q given? r).result := by
  have hnoted : IsRead (noteCheck m o (Check.reportOf (Check.findings q.dataModel q.config)) r) := hi
  unfold work
  by_cases hs : (m.strict && !passes m (Check.reportOf (Check.findings q.dataModel q.config))) = true
  · simp only [hs, if_true]
    exact .stopped hs hi hf
  have hgo : stops m q = false := eq_false_of_ne_true hs
  simp only [hs]
  rcases findHints_cases o d q given? hnoted with ⟨f, hh, hr⟩ | ⟨h, j, r', hh, hi, hr⟩
  · simp only [hh]
    exact .refused hgo hr (by simp)
  simp only [hh]
  unfold renderWith at hr
  cases he : emitterOn d q.dataModel.models q.config q.options h with
  | error f =>
    rw [he] at hr
    exact .refused hgo hr (by simp)
  | ok e =>
    rw [he] at hr
    rcases hb : e.emission q.dataModel with jb | ⟨files, jb⟩
    · simp only [hb] at hr
      simp only [emit_of_error hb]
      exact .unwritable hgo hr hi rfl rfl
    · simp only [hb] at hr
      simp only [emit_of_ok hb]
      by_cases hd : m.dryRun = true
      · simp only [hd]
        exact .dry hgo hr hd hi rfl
      · simp only [hd]
        exact ending_exportFiles hgo hr (eq_false_of_ne_true hd) hi rfl

end

/-! ## Both entries -/

/-- The request of a run on what is given; there is none if its output path leads nowhere. -/
def request? (d : Disk) (q : Intake.Request) (output : Path) : Option Intake.Request :=
  match d.resolve output with
  | .error _ => none
  | .ok _ => some { q with options := { q.options with outputPath := output.text } }

/-- The request of a run on a file; there is none if the file cannot be loaded and read. -/
def Task.request? (R : Intake.Readers) (t : Task) (d : Disk) : Option Intake.Request :=
  match d.resolve t.output, (load R d t.input).2 with
  | .ok _, .ok raw =>
    match overridden looseEntries t.overrides raw with
    | .error _ => none
    | .ok raw =>
      match Intake.readRequest R raw (some (t.input.absolutePath d.cwd).parent) with
      | .error _ => none
      | .ok q => some { q with options := t.options q.options }
  | _, _ => none

/-- A run keeps to what it is asked for: it leaves the disk alone unless it exports, and its report
holds the modules of its request. -/
structure Faithful (m : Mode) (o : Occasion) (d : Disk) (request? : Option Intake.Request)
    (given? : Option Native.Hints) (out : Outcome) : Prop where
  dry : m.dryRun = true → out.disk = d
  /-- A fault of the input that the report names ends the run. -/
  reported : ∀ r, out.result = .ok r → ¬ IsRead r → out.disk = d ∧ r.files = []
  /-- Without a request the run ends, by an error of its own or by a report that names the fault. -/
  unread : request? = none → out.disk = d ∧ ∀ r, out.result = .ok r → ¬ IsRead r ∧ r.files = []
  stopped : ∀ q ∈ request?, stops m q = true →
    out.disk = d ∧ ∃ r, out.result = .ok r ∧ r.files = []
  /-- The report holds the modules that `render` gives. -/
  rendered : ∀ q ∈ request?, stops m q = false → ∀ files j, render d q given? = .ok (files, j) →
    m.dryRun = true ∨ exportFault? m o d q files = none →
      ∃ r, out.result = .ok r ∧ r.files = files ∧ r.generationErrors = []
  /-- The run reports that a default cannot be written, where `render` fails. -/
  unwritable : ∀ q ∈ request?, stops m q = false → render d q given? = .error .unwritable →
    out.disk = d ∧ ∃ r, out.result = .ok r ∧ r.files = []
      ∧ r.generationErrors = [unwritableMessage]
  /-- Any other fault ends the run as it ends `render`. -/
  refused : ∀ q ∈ request?, stops m q = false → ∀ e, render d q given? = .error e →
    e ≠ .unwritable → out.disk = d ∧ out.result = .error e

section

variable {m : Mode} {o : Occasion} {d : Disk} {given? : Option Native.Hints}

theorem faithful_of_unread {out : Outcome} (hd : out.disk = d)
    (hr : ∀ r, out.result = .ok r → ¬ IsRead r ∧ r.files = []) :
    Faithful m o d none given? out where
  dry := fun _ => hd
  reported := fun r h _ => ⟨hd, (hr r h).2⟩
  unread := fun _ => ⟨hd, hr⟩
  stopped := fun _ h => by cases h
  rendered := fun _ h => by cases h
  unwritable := fun _ h => by cases h
  refused := fun _ h => by cases h

/-- In each clause all ways to end but one or two are at odds with what the clause supposes. -/
theorem faithful_of_ending {q : Intake.Request} {out : Outcome}
    (h : Ending m o d q given? out.disk out.result) : Faithful m o d (some q) given? out := by
  obtain ⟨d', j, x⟩ := out
  dsimp only at h
  refine ⟨fun hd => ?_, fun r hr hi => ?_, fun hq => ?_, ?_, ?_, ?_, ?_⟩
  · cases h with
    | broken _ _ hd' => simp [hd] at hd'
    | exported _ _ hd' => simp [hd] at hd'
    | _ => rfl
  · cases h <;> cases hr <;> contradiction
  · cases hq
  · rintro q ⟨⟩ hs
    cases h with
    | stopped _ _ hf => exact ⟨rfl, _, rfl, hf⟩
    | _ => simp_all
  · rintro q ⟨⟩ hs files j' hr hx
    cases h with
    | dry _ hr' _ _ hg =>
      rw [hr, Except.ok.injEq, Prod.mk.injEq] at hr'
      exact ⟨_, rfl, hr'.1.symm, hg⟩
    | exported _ hr' _ _ _ hg =>
      rw [hr, Except.ok.injEq, Prod.mk.injEq] at hr'
      exact ⟨_, rfl, hr'.1.symm, hg⟩
    | _ => simp_all
  · rintro q ⟨⟩ hs hr
    cases h with
    | unwritable _ _ _ hf hg => exact ⟨rfl, _, rfl, hf, hg⟩
    | _ => simp_all
  · rintro q ⟨⟩ hs e hr he
    cases h with
    | refused _ hr' _ =>
      rw [hr, Except.error.injEq] at hr'
      exact ⟨rfl, congrArg Except.error hr'.symm⟩
    | _ => simp_all

theorem faithful_generate (q : Intake.Request) (output : Path) :
    Faithful m o d (request? d q output) given? (generate m o d q output given?) := by
  unfold generate request?
  cases d.resolve output with
  | error f => exact faithful_of_unread rfl fun r h => by cases h
  | ok folder => exact faithful_of_ending (ending_work ⟨rfl, rfl⟩ rfl)

theorem faithful_taskGenerate (R : Intake.Readers) (t : Task) :
    Faithful m o d (t.request? R d) none (t.generate R m o d) := by
  unfold Task.generate Task.request?
  cases d.resolve t.output with
  | error f => exact faithful_of_unread rfl fun r h => by cases h
  | ok folder =>
    dsimp only
    rcases load R d t.input with ⟨j, f | raw⟩
    · dsimp only
      split_ifs
      · refine faithful_of_unread rfl ?_
        rintro r ⟨⟩
        exact ⟨fun hi => List.cons_ne_nil _ _ hi.1, rfl⟩
      · exact faithful_of_unread rfl fun r h => by cases h
    · dsimp only
      unfold Task.workOn
      cases overridden looseEntries t.overrides raw with
      | error f => exact faithful_of_unread rfl fun r h => by cases h
      | ok raw =>
        dsimp only
        rcases Intake.readRequest R raw (some (t.input.absolutePath d.cwd).parent) with e | q
        · cases e with
          | raised _ => exact faithful_of_unread rfl fun r h => by cases h
          | settingsKind _ | settings _ =>
            refine faithful_of_unread rfl ?_
            rintro r ⟨⟩
            exact ⟨fun hi => List.cons_ne_nil _ _ hi.2, rfl⟩
          | noDataModel | dataModel _ | options _ | longNumber =>
            refine faithful_of_unread rfl ?_
            rintro r ⟨⟩
            exact ⟨fun hi => List.cons_ne_nil _ _ hi.1, rfl⟩
        · exact faithful_of_ending (ending_work ⟨rfl, rfl⟩ rfl)

end

/-- **What a run leaves behind.**  By either entry a run touches the disk only when it exports; with
an input that cannot be read or a check that stops it, its report is empty; and else it holds the
modules that `render` gives, or none if there is a default that cannot be written.  This is so
whatever the readers are. -/
theorem faithful_run (R : Intake.Readers) (m : Mode) (o : Occasion) (d : Disk) :
    (∀ q output given?,
      Faithful m o d (request? d q output) given? (generate m o d q output given?)) ∧
      ∀ t : Task, Faithful m o d (t.request? R d) none (t.generate R m o d) :=
  ⟨fun q output _ => faithful_generate q output, faithful_taskGenerate R⟩

/-- A dry run on one model. -/
theorem faithful_run_user :
    let q : Intake.Request := ⟨{ models := [{ name := "User" }] }, {}, { outputPath := "out" }⟩
    let o : Occasion := ⟨"2024-01-01T00:00:00", "00:00:00", 0, "abcdefgh"⟩
    let out := generate { dryRun := true } o ⟨.folder [], []⟩ q (.ofText "out") (some .empty)
    out.disk = ⟨.folder [], []⟩ ∧
      ∃ r, out.result = .ok r ∧ r.files.map Prod.fst = [("index.ts" : Text), "user.ts"] := by
  intro q o out
  have h := (faithful_run .standard { dryRun := true } o ⟨.folder [], []⟩).1 q (.ofText "out")
    (some .empty)
  have hnames : (render ⟨.folder [], []⟩ q (some .empty)).toOption.map (fun x => x.1.map Prod.fst)
      = some [("index.ts" : Text), "user.ts"] := by decide +kernel
  cases hr : render ⟨.folder [], []⟩ q (some .empty) with
  | error e =>
    rw [hr] at hnames
    cases hnames
  | ok x =>
    rw [hr] at hnames
    obtain ⟨r, hresult, hfiles, -⟩ :=
      h.rendered q rfl (by decide +kernel) x.1 x.2 hr (.inl rfl)
    exact ⟨h.dry rfl, r, hresult, by rw [hfiles]; exact Option.some.inj hnames⟩

/-- With a default of 4301 digits `render` gives nothing, while the run reports that; with half of
a surrogate pair in a default `render` gives modules, while the run ends without a report. -/
theorem not_faithful_run :
    let field (l : Literal) : Field := { name := "note", type := "String", default? := some l }
    let q (l : Literal) : Intake.Request :=
      ⟨{ models := [{ name := "User", fields := [field l] }] }, {}, { outputPath := "out" }⟩
    let d : Disk := ⟨.folder [], []⟩
    let o : Occasion := ⟨"2024-01-01T00:00:00", "00:00:00", 0, "abcdefgh"⟩
    let files? (l : Literal) : Option Files :=
      ((generate {} o d (q l) (.ofText "out") (some .empty)).result.toOption).map RunReport.files
    let rendered? (l : Literal) : Option Files :=
      ((render d (q l) (some .empty)).toOption).map Prod.fst
    (stops {} (q (.int (Nat.pow 10 4300))) = false ∧
        rendered? (.int (Nat.pow 10 4300)) = none ∧ files? (.int (Nat.pow 10 4300)) = some []) ∧
      stops {} (q (.text [.half 0])) = false ∧
        (rendered? (.text [.half 0])).isSome = true ∧ files? (.text [.half 0]) = none := by
  decide +kernel

end ValidatorGen.Run
