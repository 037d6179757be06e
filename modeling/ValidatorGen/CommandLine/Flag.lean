import ValidatorGen.Text.CodePoint

/-!
# The flags of the command line

A flag has one or two spellings and may take a value, perhaps out of a few.
-/

namespace ValidatorGen.CommandLine

inductive Flag
  | help
  | version
  | schema
  | output
  | schemaSource
  | validateOnly
  | dryRun
  | relationModel
  | modelSuffix
  | modelCase
  | coerce
  | standaloneEnums
  | zodImport
  | clean
  | noStrict
  | failOnWarnings
  | verbose
  | quiet
  deriving DecidableEq, Repr

namespace Flag

/-- All flags, in the order in which they are listed. -/
def all : List Flag :=
  [help, version, schema, output, schemaSource, validateOnly, dryRun, relationModel, modelSuffix,
    modelCase, coerce, standaloneEnums, zodImport, clean, noStrict, failOnWarnings, verbose, quiet]

def names : Flag → List Text
  | help => ["-h", "--help"]
  | version => ["--version"]
  | schema => ["-s", "--schema"]
  | output => ["-o", "--output"]
  | schemaSource => ["--schema-source"]
  | validateOnly => ["--validate-only"]
  | dryRun => ["--dry-run"]
  | relationModel => ["--relation-model"]
  | modelSuffix => ["--model-suffix"]
  | modelCase => ["--model-case"]
  | coerce => ["--coerce"]
  | standaloneEnums => ["--standalone-enums"]
  | zodImport => ["--zod-import"]
  | clean => ["--clean"]
  | noStrict => ["--no-strict"]
  | failOnWarnings => ["--fail-on-warnings"]
  | verbose => ["-v", "--verbose"]
  | quiet => ["-q", "--quiet"]

/-- How a flag is called in a complaint. -/
def title (f : Flag) : Text := Text.join "/" f.names

def takesValue : Flag → Bool
  | schema => true
  | output => true
  | schemaSource => true
  | relationModel => true
  | modelSuffix => true
  | modelCase => true
  | zodImport => true
  | _ => false

/-- The only values that a flag takes, if not every one will do. -/
def choices? : Flag → Option (List Text)
  | relationModel => some ["true", "false", "default"]
  | modelCase => some ["PascalCase", "camelCase"]
  | _ => none

/-- All spellings with their flags. -/
def spellings : List (Text × Flag) := all.flatMap fun f => f.names.map fun n => (n, f)

/-- The flag with this spelling. -/
def ofName? (s : Text) : Option Flag := (spellings.find? (·.1 = s)).map Prod.snd

theorem mem_all (f : Flag) : f ∈ all := by cases f <;> decide

end Flag

end ValidatorGen.CommandLine
