import ValidatorGen.Proofs.Document
import ValidatorGen.Proofs.Intake.Request
import ValidatorGen.Proofs.Intake.Standard
import ValidatorGen.Proofs.Run.Report

/-!
# Runs that end without a report

A run on a file whose document is a mapping ends without a report in six situations.  In one of
them other settings cannot be put over those of the document.

* `looseEntries_isOk_iff` — over which settings others can be put;
* `generate_error_iff` — the six situations;
* `configErrors_iff` — when a report says that the settings of a document are no mapping;
* `reports_of_loaded` — both together.
-/

namespace ValidatorGen.Run

open Intake (Entries Readers Request readRequest dataModelIn? settingsIn readHostConfig)

/-! ## Settings over others -/

/-- A key and a value. -/
def IsEntry (d : Document) : Prop := ∃ k v, parts? d = some [k, v] ∧ unhashable? k = none

/-- Settings that others can be put over: nothing, a mapping, or what is made of pairs. -/
def ListsEntries (settings : Document) : Prop :=
  settings.isEmpty = true ∨ (∃ es, settings.opened = .map es) ∨
    ∃ items, parts? settings.opened = some items ∧ ∀ i ∈ items, IsEntry i

theorem entriesFrom_isOk_iff (n : Nat) (before : Entries) (items : List Document) :
    (∃ es, entriesFrom n before items = .ok es) ↔ ∀ i ∈ items, IsEntry i := by
  induction items generalizing n before with
  | nil => simp [entriesFrom]
  | cons i items ih =>
    simp only [List.forall_mem_cons]
    unfold entriesFrom IsEntry
    split
    · next hp => simp [hp]
    · next k v hp =>
      cases hu : unhashable? k with
      | some kind => simp [hp, hu]
      | none => simp [hp, hu, ih, IsEntry]
    · next ps hne hp =>
      rw [hp]
      refine iff_of_false (by simp) ?_
      rintro ⟨⟨k, v, hkv, -⟩, -⟩
      exact hne k v (Option.some.inj hkv)

theorem looseEntries_isOk_iff (settings : Document) :
    (∃ es, looseEntries settings = .ok es) ↔ ListsEntries settings := by
  unfold looseEntries ListsEntries
  by_cases he : settings.isEmpty = true
  · simp [he]
  rw [if_neg he]
  split
  · next es hm => simp [hm]
  · next hm =>
    have hnot : ¬ ∃ es, settings.opened = .map es := fun ⟨es, h⟩ => hm es h
    cases hp : parts? settings.opened with
    | none => simp [he, hnot]
    | some items => simp [entriesFrom_isOk_iff, he, hnot]

/-- The settings as a document has them, null if it has none. -/
def settingsOf (raw : Entries) : Document := (Document.field? "config" raw).getD .null

section

variable {new raw raw' base : Entries}

theorem overridden_nil (read : Document → Except OverrideFault Entries) (raw : Entries) :
    overridden read [] raw = .ok raw := rfl

theorem overridden_of_ok (hnew : new ≠ []) (h : looseEntries (settingsOf raw) = .ok base) :
    overridden looseEntries new raw
      = .ok (Ordered.putBy Document.same (.text "config") (.map (putOver new base)) raw) := by
  unfold overridden
  rw [if_neg (by simpa using hnew)]
  show (looseEntries (settingsOf raw) >>= _) = _
  rw [h]
  rfl

theorem overridden_error_iff {f : OverrideFault} :
    overridden looseEntries new raw = .error f ↔
      new ≠ [] ∧ looseEntries (settingsOf raw) = .error f := by
  by_cases hnew : new = []
  · subst hnew
    simp [overridden_nil]
  cases h : looseEntries (settingsOf raw) with
  | ok base => simp [overridden_of_ok hnew h]
  | error g =>
    have hover : overridden looseEntries new raw = .error g := by
      unfold overridden
      rw [if_neg (by simpa using hnew)]
      show (looseEntries (settingsOf raw) >>= _) = _
      rw [h]
      rfl
    simp [hover, hnew]

theorem dataModelIn?_putConfig (v : Document) (raw : Entries) :
    dataModelIn? (Ordered.putBy Document.same (.text "config") v raw) = dataModelIn? raw := by
  unfold dataModelIn?
  rw [Document.field?_putBy_of_ne (by decide), Document.field?_putBy_of_ne (by decide)]

theorem settingsIn_putConfig (es raw : Entries) :
    settingsIn (Ordered.putBy Document.same (.text "config") (.map es) raw) = .ok es := by
  unfold settingsIn
  rw [Document.field?_putBy_self]
  cases es <;> rfl

end

/-! ## The six situations -/

/-- The folder that the paths of a document are taken from. -/
def Task.folder (t : Task) (d : Disk) : Path := (t.input.absolutePath d.cwd).parent

/-- The request of a run on a file with this document, once settings are put over its own. -/
inductive Reads (R : Readers) (d : Disk) (t : Task) (raw : Entries) : Request → Prop
  | intro {raw' : Entries} {q : Request} (hout : ∃ folder, d.resolve t.output = .ok folder)
      (hover : overridden looseEntries t.overrides raw = .ok raw')
      (hread : readRequest R raw' (some (t.folder d)) = .ok q) :
      Reads R d t raw { q with options := t.options q.options }

/-- What ends a run on a file with this document without a report. -/
inductive Raises (R : Readers) (m : Mode) (d : Disk) (t : Task) (raw : Entries) (o : Occasion) :
    Escape → Prop
  /-- The path of the output leads nowhere. -/
  | output {f : DiskFault} (hout : d.resolve t.output = .error f) :
      Raises R m d t raw o (.disk f)
  /-- There are settings to be put over those of the document, and the latter list no entries. -/
  | settings {f : OverrideFault} (hout : ∃ folder, d.resolve t.output = .ok folder)
      (hnew : t.overrides ≠ []) (hloose : looseEntries (settingsOf raw) = .error f) :
      Raises R m d t raw o (.settings f)
  /-- The settings are right, and in an enumeration there is a value without a name. -/
  | nameless {raw' es : Entries} {data : Document} {c : Config}
      (hout : ∃ folder, d.resolve t.output = .ok folder)
      (hover : overridden looseEntries t.overrides raw = .ok raw')
      (hdata : dataModelIn? raw' = some data) (hes : settingsIn raw' = .ok es)
      (hc : readHostConfig R es = .ok c) (hname : Intake.HasNamelessValue data) :
      Raises R m d t raw o (.raised Intake.missingName)
  /-- Settings and data model are right, and the first path that cannot be written is too deep. -/
  | deepPath {raw' es : Entries} {data : Document} {c : Config} {model : DataModel}
      (hout : ∃ folder, d.resolve t.output = .ok folder)
      (hover : overridden looseEntries t.overrides raw = .ok raw')
      (hdata : dataModelIn? raw' = some data) (hes : settingsIn raw' = .ok es)
      (hc : readHostConfig R es = .ok c) (hm : R.dataModel data = .ok model)
      (hdeep : Intake.firstObstacle? R.textRoom raw' = some .tooDeep) :
      Raises R m d t raw o (.raised Intake.deepPath)
  /-- The disk refuses to look for the schema source. -/
  | hints {q : Request} {f : DiskFault} (hq : Reads R d t raw q) (hs : stops m q = false)
      (hfind : Native.resolve d q.options.schemaPath? = .error f) :
      Raises R m d t raw o (.disk f)
  /-- The modules are there, and their export ends early. -/
  | exporting {q : Request} {files : Files} {j : Journal} {f : DiskFault} (hq : Reads R d t raw q)
      (hs : stops m q = false) (hr : render d q none = .ok (files, j)) (hd : m.dryRun = false)
      (hx : exportFault? m o d q files = some f) : Raises R m d t raw o (.disk f)

section

variable {R : Readers} {m : Mode} {o : Occasion} {d : Disk} {t : Task} {raw raw' : Entries}
  {folder : Path}

theorem generate_of_output {f : DiskFault} (h : d.resolve t.output = .error f) :
    (t.generate R m o d).result = .error (.disk f) := by
  unfold Task.generate
  rw [h]

/-- A run on a document that is loaded is the work on it, from a report without errors on. -/
theorem generate_of_loaded (hout : d.resolve t.output = .ok folder)
    (hload : (load R d t.input).2 = .ok raw) :
    ∃ j r, (t.generate R m o d).result = (t.workOn R m o d raw j r).result ∧ r.configErrors = [] ∧
      r.inputErrors = [] ∧ r.files = [] := by
  obtain ⟨j, hl⟩ : ∃ j, load R d t.input = (j, .ok raw) := ⟨_, Prod.ext rfl hload⟩
  unfold Task.generate
  simp only [hout, hl]
  exact ⟨_, _, rfl, rfl, rfl, rfl⟩

variable {j : Journal} {r : RunReport}

theorem workOn_of_settings {f : OverrideFault}
    (h : overridden looseEntries t.overrides raw = .error f) :
    (t.workOn R m o d raw j r).result = .error (.settings f) := by
  unfold Task.workOn
  rw [h]

theorem workOn_of_raised {x : Intake.Raised}
    (h : overridden looseEntries t.overrides raw = .ok raw')
    (hread : readRequest R raw' (some (t.folder d)) = .error (.raised x)) :
    (t.workOn R m o d raw j r).result = .error (.raised x) := by
  unfold Task.workOn
  simp only [h]
  rw [show (t.input.absolutePath d.cwd).parent = t.folder d from rfl, hread]

/-- A request that is refused in any other way is reported, by its part of the input. -/
theorem workOn_of_refused {e : Intake.RequestError}
    (h : overridden looseEntries t.overrides raw = .ok raw')
    (hread : readRequest R raw' (some (t.folder d)) = .error e) (he : ∀ x, e ≠ .raised x) :
    ∃ r', (t.workOn R m o d raw j r).result = .ok r' ∧
      r'.configErrors = if e.isSettings then [e.message] else r.configErrors := by
  unfold Task.workOn
  simp only [h]
  rw [show (t.input.absolutePath d.cwd).parent = t.folder d from rfl, hread]
  cases e with
  | raised x => exact absurd rfl (he x)
  | _ => exact ⟨_, rfl, rfl⟩

theorem workOn_of_read {q : Request} (h : overridden looseEntries t.overrides raw = .ok raw')
    (hread : readRequest R raw' (some (t.folder d)) = .ok q) :
    ∃ r', (t.workOn R m o d raw j r).result
        = (work m o d { q with options := t.options q.options } none r').result ∧
      r'.configErrors = r.configErrors ∧ r'.inputErrors = r.inputErrors ∧ r'.files = r.files := by
  unfold Task.workOn
  simp only [h]
  rw [show (t.input.absolutePath d.cwd).parent = t.folder d from rfl, hread]
  exact ⟨_, rfl, rfl, rfl, rfl⟩

theorem Reads.output {q : Request} (h : Reads R d t raw q) :
    ∃ folder, d.resolve t.output = .ok folder := by
  obtain ⟨hout, -, -⟩ := h
  exact hout

/-- A document that is read is worked on from a report without errors on. -/
theorem workOn_of_reads (hi : IsRead r) (hf : r.files = []) {q : Request}
    (hq : Reads R d t raw q) :
    ∃ r', (t.workOn R m o d raw j r).result = (work m o d q none r').result ∧ IsRead r' ∧
      r'.files = [] := by
  obtain ⟨-, hover, hread⟩ := hq
  obtain ⟨r', hr', hconfig, hinput, hfiles⟩ :=
    workOn_of_read (m := m) (o := o) (j := j) (r := r) hover hread
  exact ⟨r', hr', ⟨hinput.trans hi.1, hconfig.trans hi.2⟩, hfiles.trans hf⟩

theorem raises_of_workOn_error (hR : R.Lawful) (hout : d.resolve t.output = .ok folder)
    (hi : IsRead r) (hf : r.files = []) {e : Escape} (h : (t.workOn R m o d raw j r).result = .error e) :
    Raises R m d t raw o e := by
  cases hover : overridden looseEntries t.overrides raw with
  | error f =>
    rw [workOn_of_settings hover] at h
    cases h
    obtain ⟨hnew, hloose⟩ := overridden_error_iff.1 hover
    exact .settings ⟨folder, hout⟩ hnew hloose
  | ok raw' =>
    cases hread : readRequest R raw' (some (t.folder d)) with
    | error e' =>
      by_cases he : ∃ x, e' = .raised x
      · obtain ⟨x, rfl⟩ := he
        rw [workOn_of_raised hover hread] at h
        cases h
        cases Intake.endsIn_of_error hR hread with
        | nameless hdata hes hc hname =>
          exact .nameless ⟨folder, hout⟩ hover hdata hes hc hname
        | deepPath hdata hes hc hm hdeep =>
          exact .deepPath ⟨folder, hout⟩ hover hdata hes hc hm hdeep
      · obtain ⟨r', hr', -⟩ :=
          workOn_of_refused (m := m) (o := o) (j := j) (r := r) hover hread
            (not_exists.1 he)
        rw [hr'] at h
        cases h
    | ok q =>
      have hq : Reads R d t raw { q with options := t.options q.options } :=
        .intro ⟨folder, hout⟩ hover hread
      obtain ⟨r', hr', hi', hf'⟩ := workOn_of_reads (m := m) (o := o) (j := j) hi hf hq
      rw [hr', work_error_iff hi' hf'] at h
      obtain ⟨hs, ⟨hr, he⟩ | ⟨files, j, f, hr, hd, hx, rfl⟩⟩ := h
      · obtain ⟨f, hfind⟩ := render_error_iff.1 ⟨e, he, hr⟩
        rw [render_of_resolve_error hfind] at hr
        cases hr
        exact .hints hq hs hfind
      · exact .exporting hq hs hr hd hx

theorem workOn_error_of_raises (hR : R.Lawful) (hout : d.resolve t.output = .ok folder)
    (hi : IsRead r) (hf : r.files = []) {e : Escape} (h : Raises R m d t raw o e) :
    (t.workOn R m o d raw j r).result = .error e := by
  cases h with
  | output h =>
    rw [hout] at h
    cases h
  | settings _ hnew hloose =>
    exact workOn_of_settings (overridden_error_iff.2 ⟨hnew, hloose⟩)
  | nameless _ hover hdata hes hc hname =>
    exact workOn_of_raised hover
      (Intake.readRequest_of_endsIn hR (.nameless hdata hes hc hname))
  | deepPath _ hover hdata hes hc hm hdeep =>
    exact workOn_of_raised hover
      (Intake.readRequest_of_endsIn hR (.deepPath hdata hes hc hm hdeep))
  | hints hq hs hfind =>
    obtain ⟨r', hr', hi', hf'⟩ := workOn_of_reads (m := m) (o := o) (j := j) hi hf hq
    rw [hr', work_error_iff hi' hf']
    exact ⟨hs, .inl ⟨render_of_resolve_error hfind, by simp⟩⟩
  | exporting hq hs hr hd hx =>
    obtain ⟨r', hr', hi', hf'⟩ := workOn_of_reads (m := m) (o := o) (j := j) hi hf hq
    rw [hr', work_error_iff hi' hf']
    exact ⟨hs, .inr ⟨_, _, _, hr, hd, hx, rfl⟩⟩

/-- The six situations, once it is known where the output goes. -/
theorem workOn_error_iff (hR : R.Lawful) (hout : d.resolve t.output = .ok folder) (hi : IsRead r)
    (hf : r.files = []) {e : Escape} :
    (t.workOn R m o d raw j r).result = .error e ↔ Raises R m d t raw o e :=
  ⟨raises_of_workOn_error hR hout hi hf, workOn_error_of_raises hR hout hi hf⟩

/-- A run on a file with a document that is a mapping ends without a report in one of the six
situations. -/
theorem generate_error_iff (hR : R.Lawful) (hload : (load R d t.input).2 = .ok raw) {e : Escape} :
    (t.generate R m o d).result = .error e ↔ Raises R m d t raw o e := by
  cases hout : d.resolve t.output with
  | ok folder =>
    obtain ⟨j, r, hgen, hc, hi, hf⟩ := generate_of_loaded (m := m) (o := o) hout hload
    rw [hgen]
    exact workOn_error_iff hR hout ⟨hi, hc⟩ hf
  | error f =>
    rw [generate_of_output hout]
    have hnone : ¬ ∃ folder, d.resolve t.output = .ok folder := by simp [hout]
    constructor
    · rintro ⟨⟩
      exact .output hout
    · intro h
      cases h with
      | output h =>
        rw [hout] at h
        cases h
        rfl
      | settings ho => exact absurd ho hnone
      | nameless ho => exact absurd ho hnone
      | deepPath ho => exact absurd ho hnone
      | hints hq => exact absurd hq.output hnone
      | exporting hq => exact absurd hq.output hnone

/-! ## Settings that are no mapping -/

/-- Settings that are there and are no mapping. -/
def IsNoMapping (settings : Document) : Prop :=
  settings.isEmpty = false ∧ ∀ es, settings.opened ≠ .map es

theorem settingsIn_of_isNoMapping (h : IsNoMapping (settingsOf raw)) :
    ∃ kind, settingsIn raw = .error (.settingsKind kind) := by
  obtain ⟨he, hm⟩ := h
  unfold settingsOf at he hm
  unfold settingsIn
  cases hv : Document.field? "config" raw with
  | none =>
    rw [hv] at he
    cases he
  | some v =>
    rw [hv] at he hm
    simp only [Option.getD_some] at he hm
    simp only [he, Bool.false_eq_true, if_false]
    exact ⟨_, rfl⟩

/-- A report has errors of the settings if and only if the reading of the document has. -/
theorem workOn_configErrors_iff (h : overridden looseEntries t.overrides raw = .ok raw')
    (hr : r.configErrors = []) :
    (∃ r', (t.workOn R m o d raw j r).result = .ok r' ∧ r'.configErrors ≠ []) ↔
      ∃ e, readRequest R raw' (some (t.folder d)) = .error e ∧ e.isSettings = true := by
  cases hread : readRequest R raw' (some (t.folder d)) with
  | error e =>
    by_cases he : ∃ x, e = .raised x
    · obtain ⟨x, rfl⟩ := he
      simp [workOn_of_raised h hread, Intake.RequestError.isSettings]
    · obtain ⟨r', hr', hc⟩ :=
        workOn_of_refused (m := m) (o := o) (j := j) (r := r) h hread (not_exists.1 he)
      simp [hr', hc, hr]
  | ok q =>
    obtain ⟨r₁, hr₁, hc, -⟩ := workOn_of_read (m := m) (o := o) (j := j) (r := r) h hread
    have hnone : ∀ r', (t.workOn R m o d raw j r).result = .ok r' → r'.configErrors = [] := by
      intro r' hr'
      rw [hr₁] at hr'
      rw [(accounts_work hr').config, hc, hr]
    simpa using hnone

/-- If the settings of a document with a data model are no mapping, a run says so as long as no
settings are put over them; else what comes of that is judged. -/
theorem configErrors_iff (hR : R.Lawful) (hload : (load R d t.input).2 = .ok raw)
    (hdata : (dataModelIn? raw).isSome = true) (hv : IsNoMapping (settingsOf raw)) :
    (∃ r, (t.generate R m o d).result = .ok r ∧ r.configErrors ≠ []) ↔
      (∃ folder, d.resolve t.output = .ok folder) ∧
        (t.overrides = [] ∨ ∃ es fs, looseEntries (settingsOf raw) = .ok es ∧
          readHostConfig R (putOver t.overrides es) = .refused (.faults fs)) := by
  obtain ⟨data, hdata⟩ := Option.isSome_iff_exists.1 hdata
  cases hout : d.resolve t.output with
  | error f => simp [generate_of_output hout]
  | ok folder =>
    obtain ⟨j, r, hgen, hc, -⟩ := generate_of_loaded (m := m) (o := o) hout hload
    rw [hgen]
    by_cases hnew : t.overrides = []
    · have hover : overridden looseEntries t.overrides raw = .ok raw := by
        rw [hnew]
        exact overridden_nil _ raw
      obtain ⟨kind, hs⟩ := settingsIn_of_isNoMapping hv
      rw [workOn_configErrors_iff hover hc, Intake.readRequest_of_settings_error hdata hs]
      simp [hnew, Intake.RequestError.isSettings]
    · cases hl : looseEntries (settingsOf raw) with
      | error f => simp [workOn_of_settings (overridden_error_iff.2 ⟨hnew, hl⟩), hnew]
      | ok base =>
        rw [workOn_configErrors_iff (overridden_of_ok hnew hl) hc,
          Intake.readRequest_isSettings_iff hR (by rw [dataModelIn?_putConfig, hdata])
            (settingsIn_putConfig _ raw)]
        simp [hnew]

end

/-- **Which runs end with a report.**  The readers are lawful.  For a document that is a mapping, a
run on its file ends with a report but in the six situations that `Raises` lists; one of them is
that settings are to be put over what lists no entries.  And if the settings of the document are no
mapping, the report says so, unless other settings are put over them: then there is a report only if
they are made of pairs, and it is about the settings put together. -/
theorem reports_of_loaded {R : Readers} (hR : R.Lawful) (m : Mode) (o : Occasion) (d : Disk)
    (t : Task) (raw : Entries) (hload : (load R d t.input).2 = .ok raw) :
    (∀ e, (t.generate R m o d).result = .error e ↔ Raises R m d t raw o e) ∧
      ((∃ f, Raises R m d t raw o (.settings f)) ↔ (∃ folder, d.resolve t.output = .ok folder) ∧
        t.overrides ≠ [] ∧ ¬ ListsEntries (settingsOf raw)) ∧
      ((dataModelIn? raw).isSome = true → IsNoMapping (settingsOf raw) →
        ((∃ r, (t.generate R m o d).result = .ok r ∧ r.configErrors ≠ []) ↔
          (∃ folder, d.resolve t.output = .ok folder) ∧
            (t.overrides = [] ∨ ∃ es fs, looseEntries (settingsOf raw) = .ok es ∧
              readHostConfig R (putOver t.overrides es) = .refused (.faults fs)))) := by
  refine ⟨fun _ => generate_error_iff hR hload, ?_, configErrors_iff hR hload⟩
  rw [← looseEntries_isOk_iff]
  constructor
  · rintro ⟨f, h⟩
    cases h with
    | settings hout hnew hloose => exact ⟨hout, hnew, by simp [hloose]⟩
  · rintro ⟨hout, hnew, hnone⟩
    cases hl : looseEntries (settingsOf raw) with
    | ok es => exact absurd ⟨es, hl⟩ hnone
    | error f => exact ⟨f, .settings hout hnew hl⟩

/-- A disk with one document. -/
def diskOf (document : Text) : Disk := ⟨.folder [("d.yaml", .file (Text.Utf8.encode document))], []⟩

/-- A run on that document. -/
def taskWith (overrides : Entries) : Task :=
  { input := ⟨1, ["d.yaml"]⟩, output := ⟨1, ["out"]⟩, overrides }

/-- A word in place of settings is reported. -/
theorem reports_of_loaded_word :
    let d : Disk := diskOf "datamodel:\n models: []\nconfig: x\n"
    let o : Occasion := ⟨"2024-01-01T00:00:00", "00:00:00", 0, "abcdefgh"⟩
    ∃ r, ((taskWith []).generate .standard {} o d).result = .ok r ∧ r.configErrors ≠ [] := by
  intro d o
  have hfacts : (load .standard d (taskWith []).input).2.toOption.map (fun raw =>
      (dataModelIn? raw).isSome && settingsOf raw == .text "x") = some true := by
    decide +kernel
  cases hload : (load .standard d (taskWith []).input).2 with
  | error f =>
    rw [hload] at hfacts
    cases hfacts
  | ok raw =>
    rw [hload] at hfacts
    obtain ⟨hdata, hword⟩ := Bool.and_eq_true_iff.1 (Option.some.inj hfacts)
    have hx : settingsOf raw = .text "x" := Document.beq_text_iff.1 hword
    have hv : IsNoMapping (settingsOf raw) := by
      rw [hx]
      exact ⟨rfl, fun es h => by cases h⟩
    obtain ⟨-, -, hconfig⟩ :=
      reports_of_loaded Intake.readers_standard_lawful {} o d (taskWith []) raw hload
    exact (hconfig hdata hv).2 ⟨⟨⟨1, ["out"]⟩, rfl⟩, .inl rfl⟩

/-- With another setting, a word in place of settings ends the run, and a list of a pair is taken
for settings; a value without a name ends it even without one. -/
theorem not_reports_of_loaded :
    let o : Occasion := ⟨"2024-01-01T00:00:00", "00:00:00", 0, "abcdefgh"⟩
    let coerce : Entries := [(.text "useCoerce", .bool true)]
    let class? (document : Text) (overrides : Entries) : Option Text :=
      match ((taskWith overrides).generate .standard {} o (diskOf document)).result with
      | .error e => some e.className
      | .ok _ => none
    let errors? (document : Text) (overrides : Entries) : Option (List Text) :=
      ((taskWith overrides).generate .standard {} o (diskOf document)).result.toOption.map
        (·.configErrors)
    class? "datamodel:\n models: []\nconfig: x\n" coerce = some "ValueError" ∧
      errors? "datamodel:\n models: []\nconfig:\n- - useMinLength\n  - true\n" coerce = some [] ∧
      class? "datamodel:\n enums:\n - name: Role\n   values:\n   - id: A\n" []
        = some "KeyError" := by
  decide +kernel

end ValidatorGen.Run
