import ValidatorGen.Intake.Hook
import ValidatorGen.Intake.Readers
import ValidatorGen.Journal

/-!
# Reading the settings

Each setting stands under its outer name (`useCoerce`) or under its inner one (`use_coerce`).
Settings from a host are filtered first: entries meant for the host itself are dropped, and unknown
ones are dropped with a warning.
-/

namespace ValidatorGen.Intake

/-- The keys of all settings, in order. -/
def settingKeys : List Key :=
  [⟨"relationModel", "relation_model"⟩, ⟨"modelSuffix", "model_suffix"⟩,
   ⟨"modelCase", "model_case"⟩, ⟨"useCoerce", "use_coerce"⟩, ⟨"useDecimalJs", "use_decimal_js"⟩,
   ⟨"useStandaloneEnums", "use_standalone_enums"⟩,
   ⟨"prismaJsonNullability", "prisma_json_nullability"⟩, ⟨"useMinLength", "use_min_length"⟩,
   ⟨"useTrimStrings", "use_trim_strings"⟩,
   ⟨"usePrefaultEmptyString", "use_prefault_empty_string"⟩, ⟨"imports", "imports"⟩,
   ⟨"zodImport", "zod_import"⟩]

namespace ValueReaders

variable (R : ValueReaders)

/-- A setting that is on or off. -/
def switch (d : Document) : Reading Bool := (switchHook d).read R.truth

/-- The mode of relations. -/
def relationMode (d : Document) : Reading RelationMode := (modeHook d).read R.mode

/-- The settings one by one, whatever other entries there are. -/
def settings (es : Entries) : Reading Config :=
  Reading.ok Config.mk
    |>.app ((Key.mk "relationModel" "relation_model").optional .related R.relationMode es)
    |>.app ((Key.mk "modelSuffix" "model_suffix").optional "Model" R.text es)
    |>.app ((Key.mk "modelCase" "model_case").optional .pascal R.nameCase es)
    |>.app ((Key.mk "useCoerce" "use_coerce").optional false R.switch es)
    |>.app ((Key.mk "useDecimalJs" "use_decimal_js").optional true R.switch es)
    |>.app ((Key.mk "useStandaloneEnums" "use_standalone_enums").optional false R.switch es)
    |>.app ((Key.mk "prismaJsonNullability" "prisma_json_nullability").optional true R.switch es)
    |>.app ((Key.mk "useMinLength" "use_min_length").optional false R.switch es)
    |>.app ((Key.mk "useTrimStrings" "use_trim_strings").optional false R.switch es)
    |>.app ((Key.mk "usePrefaultEmptyString" "use_prefault_empty_string").optional false R.switch
      es)
    |>.app ((Key.plain "imports").optional none (readNullable R.text) es)
    |>.app ((Key.mk "zodImport" "zod_import").optional "zod" R.name es)

end ValueReaders

/-! ### Settings from a host -/

/-- The entries that are meant for the host. -/
def hostNames : List Text :=
  ["provider", "output", "previewFeatures", "binaryTargets", "engineType"]

def isKnown (k : Document) : Bool :=
  settingKeys.any fun s => k == .text s.outer || k == .text s.inner

def isForHost (k : Document) : Bool := hostNames.any fun n => k == .text n

/-- The entries that are left of a host's settings. -/
def hostEntries (es : Entries) : Entries := es.filter fun e => !isForHost e.1 && isKnown e.1

/-- The unknown entries are worth a warning each. -/
def hostJournal (es : Entries) : Journal :=
  (es.filter fun e => !isForHost e.1 && !isKnown e.1).map fun e =>
    ⟨.warning, "zodgen.models", "Ignoring unknown generator setting '" ++ e.1.toText ++ "'."⟩

/-- The settings of a host. -/
def readHostConfig (R : Readers) (es : Entries) : Reading Config := R.config (hostEntries es)

end ValidatorGen.Intake
