import ValidatorGen.Check.Full
import ValidatorGen.Export.Folder
import ValidatorGen.Intake.Request
import ValidatorGen.Native.Discovery
import ValidatorGen.Run.Load
import ValidatorGen.Run.Override
import ValidatorGen.Run.Report

/-!
# A run

A run loads an input document, reads it, checks it, looks for hints on column types, generates the
modules and exports them.  Nothing is written before the modules are generated, and nothing at all
in a dry run or after a check that failed.
-/

namespace ValidatorGen.Run

/-- How a run is done. -/
structure Mode where
  /-- A failed check ends the run. -/
  strict : Bool := true
  failOnWarnings : Bool := false
  /-- Old modules are removed first. -/
  clean : Bool := false
  dryRun : Bool := false
  deriving DecidableEq, Repr

/-- What ends a run without a report. -/
inductive Escape
  | disk (f : DiskFault)
  | load (f : LoadFault)
  | settings (f : OverrideFault)
  | raised (r : Intake.Raised)
  /-- A list stands where a path has to. -/
  | noPath
  /-- A default cannot be written. -/
  | unwritable
  deriving Repr

namespace Escape

/-- The class of errors that it belongs to. -/
def className : Escape → Text
  | disk f => f.className
  | load f => f.className
  | settings f => f.className
  | raised r => r.className
  | noPath => "TypeError"
  | unwritable => "ValueError"

def message : Escape → Text
  | disk f => f.message
  | load f => f.message
  | settings f => f.message
  | raised r => r.message
  | noPath => "expected str, bytes or os.PathLike object, not list"
  | unwritable => Text.limitMessage ""

end Escape

/-- How a run ends. -/
structure Outcome where
  disk : Disk
  journal : Journal
  result : Except Escape RunReport

def say (level : Level) (message : Text) : Entry := ⟨level, speaker, message⟩

/-! ### Checking -/

/-- In one line what a check has found. -/
def checkDetail (c : Check.Report) : Text :=
  if c.hasErrors then Text.decimal c.errors.length ++ " error(s)"
  else if c.warnings.isEmpty then "all checks passed"
  else Text.decimal c.warnings.length ++ " warning(s)"

/-- The check lets the run go on. -/
def passes (m : Mode) (c : Check.Report) : Bool :=
  c.isValid && (c.warnings.isEmpty || !m.failOnWarnings)

def checkJournal (c : Check.Report) : Journal :=
  if c.hasErrors then c.errors.map fun i => say .error ("  ✗ " ++ i.text)
  else c.warnings.map fun i => say .warning ("  ⚠ " ++ i.text)

/-- Takes note of a check. -/
def noteCheck (m : Mode) (o : Occasion) (c : Check.Report) (r : RunReport) : RunReport :=
  { r.stage ⟨"Validate Data Model", c.isValid, o.seconds, checkDetail c⟩ with
    validationErrors := c.errors.map (·.text)
      ++ if c.isValid && !passes m c then
        [Text.decimal c.warnings.length ++ " warning(s) treated as errors."] else []
    validationWarnings := c.warnings.map (·.text) }

/-! ### Hints -/

/-- Takes note of the hints that were found. -/
def noteHints (o : Occasion) (options : Options) (h : Native.Hints) (r : RunReport) : RunReport :=
  let detail : Text := if (options.schemaPath?.getD "").isEmpty then "no schema source"
    else Text.decimal h.size ++ " model(s) with hints"
  { r.stage ⟨"Resolve Native Types", true, o.seconds, detail⟩ with nativeModels := h.size }

/-- Looks for hints, unless they are given. -/
def findHints (o : Occasion) (d : Disk) (options : Options) (given? : Option Native.Hints)
    (r : RunReport) : Except DiskFault (Native.Hints × Journal × RunReport) :=
  match given? with
  | some h => .ok (h, [], r)
  | none => do
    let (h, j) ← Native.resolve d options.schemaPath?
    pure (h, j, noteHints o options h r)

/-! ### Generating -/

/-- The emitter for models, with paths on a disk; without models the disk is not asked. -/
def emitterOn (d : Disk) (models : List Model) (c : Config) (o : Options) (h : Native.Hints) :
    Except DiskFault Emitter :=
  match models, Emitter.askedSource? c o with
  | _ :: _, some p => (d.isFolder p).map fun b => .ofOptions d.cwd b c o h
  | _, _ => .ok (.ofOptions d.cwd false c o h)

def emitDetail (data : DataModel) (files : Files) : Text :=
  let lines : Nat := files.foldr (fun f n => Text.countLines f.2 + n) 0
  Text.decimal files.length ++ " files, ~"
    ++ Text.grouped lines ++ " lines, "
    ++ Text.decimal data.models.length ++ " models"

/-- Takes note of the modules. -/
def noteFiles (o : Occasion) (data : DataModel) (files : Files) (errors : List Text)
    (r : RunReport) : RunReport :=
  { r.stage ⟨"Emit Modules", errors.isEmpty, o.seconds, emitDetail data files⟩ with
    files := files, models := data.models.length, enums := data.enums.length
    generationErrors := errors }

/-- What is said of a default that cannot be written. -/
def unwritableMessage : Text :=
  "Fatal generation error: " ++ Escape.unwritable.className ++ ": " ++ Escape.unwritable.message

/-- Generates the modules, or none if a default cannot be written. -/
def emit (o : Occasion) (e : Emitter) (data : DataModel) (r : RunReport) : Journal × RunReport :=
  let (files, errors, j) : Files × List Text × Journal :=
    match e.emission data with
    | .ok (files, j) => (files, [], j)
    | .error j => ([], [unwritableMessage], j ++ [say .error unwritableMessage])
  (j ++ [say .info ("Emission complete: " ++ emitDetail data files ++ " in "
    ++ Decimal.fixed 3 o.seconds ++ "s.")], noteFiles o data files errors r)

/-- The modules of a data model, without a check and without writing anything. -/
def render (d : Disk) (q : Intake.Request) (given? : Option Native.Hints) :
    Except Escape (Files × Journal) := do
  let (h, j) ← match given? with
    | some h => pure (h, [])
    | none => (Native.resolve d q.options.schemaPath?).mapError .disk
  let e ← (emitterOn d q.dataModel.models q.config q.options h).mapError .disk
  match e.emission q.dataModel with
  | .ok (files, j') => pure (files, j ++ j')
  | .error _ => throw .unwritable

/-! ### Exporting -/

/-- Takes note of an export. -/
def noteExport (o : Occasion) (folder : Path) (p : Export.Progress) (r : RunReport) : RunReport :=
  let m := p.manifest o folder
  { r.stage ⟨"Export to Filesystem", p.success, o.seconds, Text.decimal m.totalFiles ++ " files, "
      ++ Text.grouped m.totalBytes ++ " bytes"⟩ with
    totalFiles := m.totalFiles, totalBytes := m.totalBytes, totalLines := m.totalLines
    exportErrors := p.errors, manifest? := some m }

/-- Exports the modules of a report, after what the journal holds. -/
def exportFiles (m : Mode) (o : Occasion) (d : Disk) (output : Path) (j : Journal)
    (r : RunReport) : Outcome :=
  match d.resolve output with
  | .error f => ⟨d, j, .error (.disk f)⟩
  | .ok folder =>
    let p := Export.toFolder d { clean := m.clean } o folder r.files
    ⟨p.disk, j ++ p.journal, match p.fault? with
      | some f => .error (.disk f)
      | none => .ok ((noteExport o folder p r).finish o.seconds)⟩

/-! ### The whole run -/

/-- A run from the check on. -/
def work (m : Mode) (o : Occasion) (d : Disk) (q : Intake.Request)
    (given? : Option Native.Hints) (r : RunReport) : Outcome :=
  let c := Check.reportOf (Check.findings q.dataModel q.config)
  let j := Check.journal q.dataModel q.config ++ checkJournal c
  let r := noteCheck m o c r
  if m.strict && !passes m c then ⟨d, j, .ok (r.finish o.seconds)⟩
  else match findHints o d q.options given? r with
    | .error f => ⟨d, j, .error (.disk f)⟩
    | .ok (h, j', r) => match emitterOn d q.dataModel.models q.config q.options h with
      | .error f => ⟨d, j ++ j', .error (.disk f)⟩
      | .ok e =>
        let (j'', r) := emit o e q.dataModel r
        let j := j ++ j' ++ j''
        if !r.generationErrors.isEmpty then ⟨d, j, .ok (r.finish o.seconds)⟩
        else if m.dryRun then
          ⟨d, j ++ [say .info ("Dry run: " ++ Text.decimal r.files.length
            ++ " module(s) emitted, nothing written.")], .ok (r.finish o.seconds)⟩
        else exportFiles m o d (.ofText q.options.outputPath) j r

/-- A report that says nothing yet but where the modules go. -/
def reportFor (output : Path) : RunReport := { outputDirectory := output.text }

/-- A run on what is given. -/
def generate (m : Mode) (o : Occasion) (d : Disk) (q : Intake.Request) (output : Path)
    (given? : Option Native.Hints) : Outcome :=
  match d.resolve output with
  | .error f => ⟨d, [], .error (.disk f)⟩
  | .ok folder =>
    work m o d { q with options := { q.options with outputPath := output.text } } given?
      (reportFor folder)

/-! ### Runs on a file -/

/-- What a run on a file is told beside its mode. -/
structure Task where
  input : Path
  output : Path
  /-- The schema source, instead of the one that the document names. -/
  source? : Option Path := none
  /-- The settings that are put over those of the document. -/
  overrides : Intake.Entries := []

namespace Task

/-- The paths for a run. -/
def options (t : Task) (o : Options) : Options :=
  { o with outputPath := t.output.text, schemaPath? := (t.source?.map (·.text)).or o.schemaPath? }

/-- A run on a document that is loaded. -/
def workOn (R : Intake.Readers) (t : Task) (m : Mode) (o : Occasion) (d : Disk)
    (raw : Intake.Entries) (j : Journal) (r : RunReport) : Outcome :=
  let stage (success : Bool) (detail : Text) : Stage :=
    ⟨"Parse Input", success, o.seconds, detail⟩
  match overridden looseEntries t.overrides raw with
  | .error f => ⟨d, j, .error (.settings f)⟩
  | .ok raw =>
    let j := j ++ Intake.requestJournal raw
    match Intake.readRequest R raw (some (t.input.absolutePath d.cwd).parent) with
    | .error (.raised r) => ⟨d, j, .error (.raised r)⟩
    | .error e =>
      let r := r.stage (stage false "invalid input")
      ⟨d, j ++ [say .error e.message], .ok (RunReport.finish o.seconds
        (if e.isSettings then { r with configErrors := [e.message] }
          else { r with inputErrors := [e.message] }))⟩
    | .ok q =>
      let r := r.stage (stage true (Text.decimal q.dataModel.models.length ++ " models parsed"))
      let out := work m o d { q with options := t.options q.options } none r
      { out with journal := j ++ out.journal }

/-- A run on a file. -/
def generate (R : Intake.Readers) (t : Task) (m : Mode) (o : Occasion) (d : Disk) : Outcome :=
  let stage (success : Bool) (detail : Text) : Stage := ⟨"Load Input", success, o.seconds, detail⟩
  match d.resolve t.output with
  | .error f => ⟨d, [], .error (.disk f)⟩
  | .ok folder =>
    let r := reportFor folder
    match load R d t.input with
    | (j, .error f) =>
      if f.isInput then
        ⟨d, j ++ [say .error ("Could not load input: " ++ f.message)],
          .ok (({ r with inputErrors := [f.message] }.stage (stage false f.message)).finish
            o.seconds)⟩
      else ⟨d, j, .error (.load f)⟩
    | (j, .ok raw) => t.workOn R m o d raw j (r.stage (stage true ("from " ++ t.input.name)))

end Task

end ValidatorGen.Run
