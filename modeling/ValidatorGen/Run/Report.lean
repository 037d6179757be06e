import ValidatorGen.Decimal.Fixed
import ValidatorGen.Emit.Modules
import ValidatorGen.Export.Manifest

/-!
# The report of a run

A run has stages.  Its report keeps one line for each stage and the errors by the part of the run
that they belong to; it fails if there are any.  A report may be put together by hand, so its counts
are whole numbers of either sign.
-/

namespace ValidatorGen

/-- One stage of a run. -/
structure Stage where
  name : Text
  success : Bool
  seconds : Float
  detail : Text
  deriving DecidableEq, Repr

structure RunReport where
  success : Bool := false
  outputDirectory : Text := ""
  totalFiles : Int := 0
  totalBytes : Int := 0
  totalLines : Int := 0
  models : Int := 0
  enums : Int := 0
  nativeModels : Int := 0
  seconds : Float := 0
  stages : List Stage := []
  inputErrors : List Text := []
  configErrors : List Text := []
  validationErrors : List Text := []
  validationWarnings : List Text := []
  generationErrors : List Text := []
  exportErrors : List Text := []
  files : Files := []
  manifest? : Option Manifest := none
  deriving DecidableEq, Repr

namespace RunReport

/-- The text with blanks in front up to a width. -/
def padLeft (width : Nat) (s : Text) : Text :=
  Text.repeated (width - s.length) ' ' ++ s

/-- The text with blanks behind up to a width. -/
def padRight (width : Nat) (s : Text) : Text :=
  s ++ Text.repeated (width - s.length) ' '

def rule (c : CodePoint) : Text := Text.repeated 60 c

def stageLine (s : Stage) : Text :=
  "    " ++ (if s.success then "✓" else "✗") ++ " " ++ padRight 28 s.name ++ " "
    ++ padLeft 7 (Decimal.fixed 3 s.seconds) ++ "s  " ++ s.detail

/-- A list of errors or warnings under a title; an empty one is left out. -/
def block (title sign : Text) (items : List Text) : List Text :=
  if items.isEmpty then []
  else rule '─' :: ("  " ++ title ++ " (" ++ Text.decimal items.length ++ "):")
    :: items.map fun i => "    " ++ sign ++ " " ++ i

/-- The report on several lines. -/
def summary (r : RunReport) : Text :=
  let stages : List Text :=
    if r.stages.isEmpty then [] else "  Pipeline Steps:" :: r.stages.map stageLine
  Text.join "\n"
    ([rule '=',
      "  ZodGen — Generation Report",
      rule '=',
      "  Status:           " ++ (if r.success then "✅ SUCCESS" else "❌ FAILED"),
      "  Output:           " ++ r.outputDirectory,
      "  Models processed: " ++ Text.signedDecimal r.models,
      "  Enums processed:  " ++ Text.signedDecimal r.enums,
      "  Native hints:     " ++ Text.signedDecimal r.nativeModels ++ " model(s)",
      "  Files generated:  " ++ Text.signedDecimal r.totalFiles,
      "  Total lines:      " ++ Text.grouped r.totalLines,
      "  Total bytes:      " ++ Text.grouped r.totalBytes,
      "  Total time:       " ++ Decimal.fixed 3 r.seconds ++ "s",
      rule '─']
    ++ stages
    ++ block "Input Errors" "✗" r.inputErrors
    ++ block "Configuration Errors" "✗" r.configErrors
    ++ block "Validation Errors" "✗" r.validationErrors
    ++ block "Validation Warnings" "⚠" r.validationWarnings
    ++ block "Generation Errors" "✗" r.generationErrors
    ++ block "Export Errors" "✗" r.exportErrors
    ++ [rule '='])

/-- Nothing has failed. -/
def isClean (r : RunReport) : Bool :=
  r.inputErrors.isEmpty && r.configErrors.isEmpty && r.validationErrors.isEmpty
    && r.generationErrors.isEmpty && r.exportErrors.isEmpty

/-- The report of a run that is over. -/
def finish (seconds : Float) (r : RunReport) : RunReport :=
  { r with success := r.isClean, seconds := seconds }

/-- Adds a stage. -/
def stage (r : RunReport) (s : Stage) : RunReport := { r with stages := r.stages ++ [s] }

end RunReport

end ValidatorGen
