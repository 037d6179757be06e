import ValidatorGen.CommandLine.Arguments
import ValidatorGen.CommandLine.Usage
import ValidatorGen.Run.Generate

/-!
# Running the command line

The program either checks an input document or generates from it.  It ends with a code: 0 if all
went well, 1 if the settings or the check are at fault, 2 if the generation or the arguments are,
3 if the export is, 4 if the input is.
-/

namespace ValidatorGen.CommandLine

inductive Code
  | success
  | checkFault
  | generationFault
  | exportFault
  | inputFault
  deriving DecidableEq, Repr

def Code.number : Code → Nat
  | success => 0
  | checkFault => 1
  | generationFault => 2
  | exportFault => 3
  | inputFault => 4

/-- What the program leaves behind. -/
structure Finish where
  disk : Disk
  out : Text := ""
  err : Text := ""
  /-- The code, or what ended the program. -/
  code : Except Run.Escape Nat

/-- The code that the process ends with. -/
def Finish.status (f : Finish) : Nat :=
  match f.code with
  | .ok n => n
  | .error _ => 1

/-! ### The log -/

/-- The rank of the entries that are shown. -/
def shownRank (a : Arguments) : Nat :=
  if a.has .quiet then Level.error.rank
  else if a.verbosity = 0 then Level.warning.rank else Level.info.rank

def logLine (o : Occasion) (e : Entry) : Text :=
  o.clock ++ " │ " ++ RunReport.padRight 8 e.level.word ++ " │ " ++ e.speaker ++ " │ " ++ e.message
    ++ "\n"

/-- The lines of those entries that are shown. -/
def log (a : Arguments) (o : Occasion) (j : Journal) : Text :=
  List.flatten ((j.atLeast (shownRank a)).map (logLine o))

def say (level : Level) (message : Text) : Entry := ⟨level, programName, message⟩

/-! ### Settings -/

/-- The settings that the arguments put over those of the document. -/
def overrides (a : Arguments) : Intake.Entries :=
  let value (f : Flag) (key : Text) : Intake.Entries :=
    (a.value? f).toList.map fun v => (.text key, match v with
      | .text s => .text s
      | .empty => .list [])
  let switch (f : Flag) (key : Text) : Intake.Entries :=
    if a.has f then [(.text key, .bool true)] else []
  value .relationModel "relationModel" ++ value .modelSuffix "modelSuffix"
    ++ value .modelCase "modelCase" ++ switch .coerce "useCoerce"
    ++ switch .standaloneEnums "useStandaloneEnums" ++ value .zodImport "zodImport"

def mode (a : Arguments) : Run.Mode where
  strict := !a.has .noStrict
  failOnWarnings := a.has .failOnWarnings
  clean := a.has .clean
  dryRun := a.has .dryRun

/-! ### Checking only -/

/-- The report of a check, on several lines. -/
def checkReport (o : Occasion) (input : Path) (d : DataModel) (r : Check.Report) : Text :=
  let rule := Text.repeated 50 '='
  let head : List Text :=
    ["", rule, "  Data Model Validation Report", rule,
      "  File:     " ++ input.name,
      "  Models:   " ++ Text.decimal d.models.length,
      "  Enums:    " ++ Text.decimal d.enums.length,
      "  Time:     " ++ Decimal.fixed 3 o.seconds ++ "s",
      "  Valid:    " ++ if r.isValid then "Yes" else "No"]
  let block (title sign : Text) (items : List Check.Item) : List Text :=
    if items.isEmpty then []
    else "" :: ("  " ++ title ++ " (" ++ Text.decimal items.length ++ "):")
      :: items.map fun i => "    " ++ sign ++ " " ++ i.text
  let praise : List Text :=
    if r.isValid && r.warnings.isEmpty then ["", "  ✅ All validations passed!"] else []
  text (head ++ block "Errors" "✗" r.errors ++ block "Warnings" "⚠" r.warnings ++ praise
    ++ [rule, ""])

/-- What a check of the input document prints, reports, and how it ends. -/
def check (R : Intake.Readers) (a : Arguments) (o : Occasion) (d : Disk) (input : Path) :
    Text × Journal × Except Run.Escape Code :=
  let start := [say .info ("Running validation-only mode for: " ++ input.text)]
  match Run.load R d input with
  | (j, .error f) =>
    if f.isInput then
      ("", start ++ j ++ [say .error ("Failed to load input: " ++ f.message)], .ok .inputFault)
    else ("", start ++ j, .error (.load f))
  | (j, .ok raw) =>
    match Run.overridden Run.strictEntries (overrides a) raw with
    | .error f => ("", start ++ j, .error (.settings f))
    | .ok raw =>
      let j := start ++ j ++ Intake.requestJournal raw
      match Intake.readRequest R raw (some input.parent) with
      | .error (.raised r) => ("", j, .error (.raised r))
      | .error e =>
        if e.isSettings then ("", j ++ [say .error e.message], .ok .checkFault)
        else ("", j ++ [say .error ("Failed to parse input: " ++ e.message)], .ok .inputFault)
      | .ok q =>
        let r := Check.reportOf (Check.findings q.dataModel q.config)
        (checkReport o input q.dataModel r, j ++ Check.journal q.dataModel q.config,
          .ok (if r.isValid then .success else .checkFault))

/-! ### Generating -/

/-- The code for a report. -/
def codeOf (r : RunReport) : Code :=
  if r.success then .success
  else if !r.inputErrors.isEmpty then .inputFault
  else if !r.configErrors.isEmpty || !r.validationErrors.isEmpty then .checkFault
  else if !r.exportErrors.isEmpty then .exportFault
  else .generationFault

/-- What the log says at the end. -/
def verdict (c : Code) : Entry :=
  match c with
  | .success => say .info "Generation completed successfully."
  | c => say .error ("Generation failed with exit code " ++ Text.decimal c.number ++ ".")

/-- Generates from the input document. -/
def generate (R : Intake.Readers) (a : Arguments) (o : Occasion) (d : Disk)
    (input output : Path) : Finish :=
  let task : Run.Task :=
    { input, output, source? := a.source?, overrides := overrides a }
  let out := task.generate R (mode a) o d
  let start := [say .info ("Data model: " ++ input.text), say .info ("Output:     " ++ output.text)]
    ++ (if a.has .dryRun then [say .info "Dry-run mode: files will not be written to disk."]
      else [])
    ++ out.journal
  match out.result with
  | .error e => { disk := out.disk, err := log a o start, code := .error e }
  | .ok r =>
    { disk := out.disk
      out := if a.has .quiet then "" else text [r.summary]
      err := log a o (start ++ [verdict (codeOf r)])
      code := .ok (codeOf r).number }

/-! ### The program -/

/-- The absolute path that a value of the command line names. -/
def placeOf (d : Disk) (v : Value) : Except Run.Escape Path :=
  match v with
  | .empty => .error .noPath
  | .text s => (d.resolve (.ofText s)).mapError .disk

/-- Runs the program on an input document, which is given by its absolute path. -/
def runOn (R : Intake.Readers) (a : Arguments) (o : Occasion) (d : Disk) (input : Path) :
    Finish :=
  match d.isFile input with
  | .error f => { disk := d, code := .error (.disk f) }
  | .ok false =>
    { disk := d, err := log a o [say .error ("Data model file not found: " ++ input.text)],
      code := .ok Code.inputFault.number }
  | .ok true =>
    if a.has .validateOnly then
      let (out, j, code) := check R a o d input
      { disk := d, out, err := log a o j, code := code.map Code.number }
    else match a.value? .output with
      | none =>
        { disk := d
          err := log a o [say .error ("Output directory is required for generation. "
            ++ "Use -o/--output or --validate-only.")] ++ usage
          code := .ok Code.inputFault.number }
      | some v =>
        match placeOf d v with
        | .error e => { disk := d, code := .error e }
        | .ok output => generate R a o d input output

/-- Runs the program with arguments that make sense. -/
def runWith (R : Intake.Readers) (a : Arguments) (o : Occasion) (d : Disk) : Finish :=
  match placeOf d ((a.value? .schema).getD .empty) with
  | .error e => { disk := d, code := .error e }
  | .ok input => runOn R a o d input

/-- Runs the program. -/
def run (R : Intake.Readers) (o : Occasion) (d : Disk) (as : List Text) : Finish :=
  match arguments as with
  | .error .help => { disk := d, out := help, code := .ok 0 }
  | .error .version => { disk := d, out := versionLine, code := .ok 0 }
  | .error (.refused c) => { disk := d, err := refusal c.message, code := .ok 2 }
  | .ok a => runWith R a o d

end ValidatorGen.CommandLine
