import ValidatorGen.Export.Manifest

/-!
# What the program says about itself
-/

namespace ValidatorGen.CommandLine

def programName : Text := "zodgen"

/-- Lines, each of them ended. -/
def text (ls : List Text) : Text := List.flatten (ls.map (· ++ "\n"))

/-- The flags in short. -/
def usage : Text :=
  text
    ["usage: zodgen [-h] [--version] -s PATH [-o DIR] [--schema-source PATH]",
      "              [--validate-only] [--dry-run]",
      "              [--relation-model \x7btrue,false,default\x7d] [--model-suffix SUFFIX]",
      "              [--model-case \x7bPascalCase,camelCase\x7d] [--coerce]",
      "              [--standalone-enums] [--zod-import MODULE] [--clean]",
      "              [--no-strict] [--fail-on-warnings] [-v] [-q]"]

def generalHelp : Text :=
  text
    ["options:",
      "  -h, --help            show this help message and exit",
      "  --version             show program's version number and exit",
      "  -s PATH, --schema PATH",
      "                        Path to the data model document (JSON or YAML).",
      "  -o DIR, --output DIR  Output directory for generated modules. Required",
      "                        unless --validate-only is set.",
      "  --schema-source PATH  Schema source file or directory scanned for native",
      "                        types (overrides schemaPath).",
      "",
      "operation modes:",
      "  --validate-only       Only validate the data model and configuration.",
      "  --dry-run             Run the full pipeline but don't write files to disk."]

def settingsHelp : Text :=
  text
    ["configuration overrides:",
      "  --relation-model \x7btrue,false,default\x7d",
      "                        Emit complete relation schemas ('default' also renames",
      "                        them).",
      "  --model-suffix SUFFIX",
      "                        Suffix of generated schema identifiers (default",
      "                        'Model').",
      "  --model-case \x7bPascalCase,camelCase\x7d",
      "                        Casing of generated schema identifiers.",
      "  --coerce              Use coercion-prefixed base validators.",
      "  --standalone-enums    Emit enums as standalone schemas in enums.ts.",
      "  --zod-import MODULE   Module specifier z is imported from (e.g. 'zod/v4')."]

def behaviourHelp : Text :=
  text
    ["behaviour flags:",
      "  --clean               Remove stale generated modules before writing.",
      "  --no-strict           Continue generation even if validation reports errors.",
      "  --fail-on-warnings    Treat validation warnings as errors.",
      "",
      "verbosity:",
      "  -v, --verbose         Increase verbosity (-v for INFO, -vv for DEBUG).",
      "  -q, --quiet           Suppress all output except errors."]

def examples : Text :=
  text
    ["Examples:",
      "  zodgen -s datamodel.yaml -o ./generated",
      "  zodgen -s datamodel.json -o ./out --schema-source prisma/ -v",
      "  zodgen -s datamodel.yaml --validate-only"]

def purpose : Text :=
  "ZodGen — Zod validator generator.\n\nTransforms a database data model (JSON/YAML) into "
    ++ "TypeScript modules defining Zod schemas for every model and enum.\n"

/-- What each flag is for. -/
def help : Text :=
  Text.join "\n" [usage, purpose, generalHelp, settingsHelp, behaviourHelp, examples]

def versionLine : Text := text ["ZodGen v" ++ release]

/-- What is said of arguments that are refused. -/
def refusal (message : Text) : Text :=
  usage ++ text [programName ++ ": error: " ++ message]

end ValidatorGen.CommandLine
