import ValidatorGen.Proofs.Run.Outcome

/-!
# What the report of a run accounts for

* `render_error_iff` — nothing but the search for hints keeps the modules from being generated,
  apart from a default that cannot be written;
* `accounts_work` — the report of a run succeeds if no part of the run has failed, and the check is
  one of these parts;
* `work_error_iff` — what ends a run on a request without a report.
-/

namespace ValidatorGen.Run

/-! ## Hints -/

section

variable {m : Mode} {o : Occasion} {d : Disk} {q : Intake.Request} {given? : Option Native.Hints}

/-- The search for hints asks for the schema source first. -/
theorem find?_of_resolve {path : Text} {x : Native.Hints × Journal}
    (h : Native.resolve d (some path) = .ok x) : ∃ n?, d.find? (.ofText path) = .ok n? := by
  cases hf : d.find? (.ofText path) with
  | ok n? => exact ⟨n?, rfl⟩
  | error f =>
    have hl : Native.locate? d (.ofText path) = .error f := by
      unfold Native.locate?
      rw [hf]
      rfl
    have hs : Native.readSource d path = .error f := by
      unfold Native.readSource
      rw [hl]
      rfl
    have hr : Native.resolve d (some path) = .error f := by
      show (Native.readSource d path >>= _) = _
      rw [hs]
      rfl
    rw [hr] at h
    cases h

/-- Once the hints are found, the disk refuses no emitter. -/
theorem emitterOn_of_resolve {options : Options} {x : Native.Hints × Journal}
    (h : Native.resolve d options.schemaPath? = .ok x) (models : List Model) (c : Config)
    (hints : Native.Hints) : ∃ e, emitterOn d models c options hints = .ok e := by
  unfold emitterOn
  split
  case h_1 p hp =>
    unfold Emitter.askedSource? at hp
    split_ifs at hp
    obtain ⟨path, hpath, rfl⟩ := Option.map_eq_some_iff.1 hp
    rw [hpath] at h
    obtain ⟨n?, hn⟩ := find?_of_resolve h
    exact ⟨_, by rw [Disk.isFolder, hn]; rfl⟩
  case h_2 => exact ⟨_, rfl⟩

theorem render_of_resolve_error {f : DiskFault}
    (h : Native.resolve d q.options.schemaPath? = .error f) :
    render d q none = .error (.disk f) := by
  rw [render_none, h]

theorem render_of_resolve_ok {x : Native.Hints × Journal}
    (h : Native.resolve d q.options.schemaPath? = .ok x) :
    (∃ files, render d q none = .ok files) ∨ render d q none = .error .unwritable := by
  obtain ⟨e, he⟩ := emitterOn_of_resolve h q.dataModel.models q.config x.1
  rw [render_none, h]
  dsimp only
  unfold renderWith
  rw [he]
  dsimp only
  cases e.emission q.dataModel with
  | error j => exact .inr rfl
  | ok x => exact .inl ⟨_, rfl⟩

/-- Apart from a default that cannot be written, it is the search for hints that fails. -/
theorem render_error_iff :
    (∃ e ≠ Escape.unwritable, render d q none = .error e) ↔
      ∃ f, Native.resolve d q.options.schemaPath? = .error f := by
  constructor
  · rintro ⟨e, he, hr⟩
    cases h : Native.resolve d q.options.schemaPath? with
    | error f => exact ⟨f, rfl⟩
    | ok x =>
      rcases render_of_resolve_ok h with ⟨files, h⟩ | h <;> rw [h] at hr
      · cases hr
      · cases hr
        exact absurd rfl he
  · rintro ⟨f, hf⟩
    exact ⟨.disk f, by simp, render_of_resolve_error hf⟩

/-! ## The parts of a run -/

/-- Two reports name the same errors, those of the generation apart. -/
structure SameErrors (r r' : RunReport) : Prop where
  input : r'.inputErrors = r.inputErrors
  config : r'.configErrors = r.configErrors
  check : r'.validationErrors = r.validationErrors
  exporting : r'.exportErrors = r.exportErrors

theorem SameErrors.trans {r r' r'' : RunReport} (h : SameErrors r r') (h' : SameErrors r' r'') :
    SameErrors r r'' :=
  ⟨h'.input.trans h.input, h'.config.trans h.config, h'.check.trans h.check,
    h'.exporting.trans h.exporting⟩

theorem sameErrors_findHints {r r' : RunReport} {h : Native.Hints} {j : Journal}
    (hr : findHints o d q.options given? r = .ok (h, j, r')) : SameErrors r r' := by
  cases given? with
  | some h =>
    cases hr
    exact ⟨rfl, rfl, rfl, rfl⟩
  | none =>
    unfold findHints at hr
    cases hn : Native.resolve d q.options.schemaPath? with
    | error f =>
      rw [hn] at hr
      cases hr
    | ok x =>
      rw [hn] at hr
      cases hr
      exact ⟨rfl, rfl, rfl, rfl⟩

theorem sameErrors_emit (e : Emitter) (data : DataModel) (r : RunReport) :
    SameErrors r (emit o e data r).2 := by
  rcases h : e.emission data with j | ⟨files, j⟩
  · rw [emit_of_error h]
    exact ⟨rfl, rfl, rfl, rfl⟩
  · rw [emit_of_ok h]
    exact ⟨rfl, rfl, rfl, rfl⟩

theorem errors_eq_nil_iff (c : Check.Report) : c.errors = [] ↔ c.isValid = true := by
  unfold Check.Report.errors Check.Report.isValid Check.Report.hasErrors
  rw [List.filter_eq_nil_iff, Bool.not_eq_true', List.any_eq_false]

/-- A check that does not pass is among the errors, also if it has warnings alone. -/
theorem validationErrors_noteCheck (m : Mode) (o : Occasion) (c : Check.Report) (r : RunReport) :
    (noteCheck m o c r).validationErrors = [] ↔ passes m c = true := by
  have hvalid : passes m c = true → c.isValid = true := fun h => (Bool.and_eq_true_iff.1 h).1
  unfold noteCheck
  rw [List.append_eq_nil_iff, List.map_eq_nil_iff, errors_eq_nil_iff]
  constructor
  · rintro ⟨hv, hw⟩
    by_contra hp
    rw [hv, eq_false_of_ne_true hp] at hw
    cases hw
  · intro hp
    exact ⟨hvalid hp, by rw [hp, Bool.not_true, Bool.and_false, if_neg Bool.false_ne_true]⟩

/-- What a report accounts for, if the check has these findings. -/
structure Accounts (m : Mode) (c : Check.Report) (r r' : RunReport) : Prop where
  success : r'.success = r'.isClean
  input : r'.inputErrors = r.inputErrors
  config : r'.configErrors = r.configErrors
  check : r'.validationErrors = [] ↔ passes m c = true
  dry : m.dryRun = true → r'.exportErrors = r.exportErrors

theorem accounts_finish {c : Check.Report} {r r' : RunReport}
    (h : SameErrors (noteCheck m o c r) r') : Accounts m c r (r'.finish o.seconds) where
  success := rfl
  input := h.input
  config := h.config
  check := h.check ▸ validationErrors_noteCheck m o c r
  dry := fun _ => h.exporting

theorem accounts_exportFiles {c : Check.Report} {r r₁ r' : RunReport} {output : Path} {j : Journal}
    (hd : ¬ m.dryRun = true) (h : SameErrors (noteCheck m o c r) r₁)
    (hr : (exportFiles m o d output j r₁).result = .ok r') : Accounts m c r r' := by
  unfold exportFiles at hr
  cases hres : d.resolve output with
  | error f =>
    rw [hres] at hr
    cases hr
  | ok folder =>
    simp only [hres] at hr
    cases hf : (Export.toFolder d { clean := m.clean } o folder r₁.files).fault? with
    | some f =>
      rw [hf] at hr
      cases hr
    | none =>
      rw [hf] at hr
      cases hr
      exact ⟨rfl, h.input, h.config, h.check ▸ validationErrors_noteCheck m o c r,
        fun h => absurd h hd⟩

/-- The report of a run on a request. -/
theorem accounts_work {r r' : RunReport} (h : (work m o d q given? r).result = .ok r') :
    Accounts m (Check.reportOf (Check.findings q.dataModel q.config)) r r' := by
  have hsame : ∀ s : RunReport, SameErrors s s := fun _ => ⟨rfl, rfl, rfl, rfl⟩
  unfold work at h
  by_cases hs : (m.strict
      && !passes m (Check.reportOf (Check.findings q.dataModel q.config))) = true
  · simp only [hs, if_true] at h
    cases h
    exact accounts_finish (hsame _)
  simp only [hs] at h
  cases hh : findHints o d q.options given?
      (noteCheck m o (Check.reportOf (Check.findings q.dataModel q.config)) r) with
  | error f =>
    simp only [hh] at h
    cases h
  | ok x =>
    obtain ⟨hints, j, r₁⟩ := x
    simp only [hh] at h
    cases he : emitterOn d q.dataModel.models q.config q.options hints with
    | error f =>
      simp only [he] at h
      cases h
    | ok e =>
      simp only [he] at h
      have hk := (sameErrors_findHints hh).trans (sameErrors_emit (o := o) e q.dataModel r₁)
      by_cases hg : (!(emit o e q.dataModel r₁).2.generationErrors.isEmpty) = true
      · simp only [hg, if_true] at h
        cases h
        exact accounts_finish hk
      simp only [hg] at h
      by_cases hd : m.dryRun = true
      · simp only [hd, if_true] at h
        cases h
        exact accounts_finish hk
      · simp only [hd] at h
        exact accounts_exportFiles hd hk h

/-- What ends a run on a request without a report: what keeps the modules from being generated, if
that is no default, or what ends the export early. -/
theorem work_error_iff {r : RunReport} (hi : IsRead r) (hf : r.files = []) {e : Escape} :
    (work m o d q given? r).result = .error e ↔
      stops m q = false ∧ (render d q given? = .error e ∧ e ≠ .unwritable ∨
        ∃ files j f, render d q given? = .ok (files, j) ∧ m.dryRun = false ∧
          exportFault? m o d q files = some f ∧ e = .disk f) := by
  have hend : Ending m o d q given? (work m o d q given? r).disk (work m o d q given? r).result :=
    ending_work hi hf
  generalize (work m o d q given? r).disk = d', (work m o d q given? r).result = x at hend
  cases hend with
  | stopped hs => simp [hs]
  | @refused e' hs hr he =>
    simp only [hs, hr, Except.error.injEq, reduceCtorEq, false_and, exists_false, or_false,
      true_and]
    exact ⟨fun h => ⟨h, h ▸ he⟩, And.left⟩
  | unwritable hs hr =>
    simp only [hs, hr, Except.error.injEq, reduceCtorEq, false_and, exists_false, or_false,
      true_and, false_iff]
    exact fun h => h.2 h.1.symm
  | dry hs hr hd => simp [hr, hd]
  | broken hs hr hd hx => simp [hs, hr, hd, hx, eq_comm]
  | exported hs hr hd hx => simp [hr, hx]

/-- Without hints of its own a dry run ends with a report unless the disk refuses to look for
them. -/
theorem result_dryRun_iff {r : RunReport} (hd : m.dryRun = true) (hi : IsRead r)
    (hf : r.files = []) :
    (∃ r', (work m o d q none r).result = .ok r') ↔
      stops m q = true ∨ (Native.resolve d q.options.schemaPath?).isOk = true := by
  have hok : (∃ r', (work m o d q none r).result = .ok r') ↔
      ¬ ∃ e, (work m o d q none r).result = .error e := by
    cases (work m o d q none r).result <;> simp
  simp only [hok, work_error_iff hi hf, hd]
  cases hs : stops m q with
  | true => simp
  | false =>
    cases h : Native.resolve d q.options.schemaPath? with
    | error f => simp [render_of_resolve_error h, Except.isOk, Except.toBool]
    | ok x =>
      rcases render_of_resolve_ok h with ⟨⟨files, j⟩, hr⟩ | hr <;>
        simp [hr, Except.isOk, Except.toBool]

end

end ValidatorGen.Run
