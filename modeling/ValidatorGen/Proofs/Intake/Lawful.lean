import Mathlib.Tactic.Common
import ValidatorGen.Intake.Request

/-!
# What is known of the readers

A run is given its readers.  `Readers.Lawful` says what is known of them: under which name a setting
is looked up, that an entry which is not looked up is refused, that paths are taken as they are, and
that nothing is raised by reading unless a hook raises it.

* `hook_ne_raised_of_meetsSetting`, `valuesHook_eq_raised_iff` — what the hooks raise;
* `Readers.Lawful.config_ne_raised` — so that nothing is raised by reading settings;
* `Readers.Lawful.dataModel_eq_raised_iff` — and by reading a data model only where the value of an
  enumeration has no name.
-/

namespace ValidatorGen.Intake

/-! ## What is handed to hooks -/

/-- The items of a value that is read as a list. -/
def Lists (d : Document) (items : List Document) : Prop :=
  d.opened = .list items ∨ d.opened = .set items ∨
    ∃ a b, d.opened = .pair a b ∧ items = [a, b]

/-- A mapping with these entries is in the list under a name. -/
def HasItem (name : Text) (es fs : Entries) : Prop :=
  ∃ v items i, Document.field? name es = some v ∧ Lists v items ∧ i ∈ items ∧ i.opened = .map fs

/-- The hooks that see a value when a data model is read. -/
inductive Meets (d : Document) : (Document → Hooked) → Document → Prop
  | kind {es ms fs : Entries} {v : Document} (hd : d.opened = .map es)
    (hm : HasItem "models" es ms) (hf : HasItem "fields" ms fs)
    (hv : Document.field? "kind" fs = some v) : Meets d kindHook v
  | default {es ms fs : Entries} {v : Document} (hd : d.opened = .map es)
    (hm : HasItem "models" es ms) (hf : HasItem "fields" ms fs)
    (hv : Document.field? "default" fs = some v) : Meets d defaultHook v
  | values {es fs : Entries} {v : Document} (hd : d.opened = .map es)
    (he : HasItem "enums" es fs) (hv : Document.field? "values" fs = some v) :
    Meets d valuesHook v

/-- The hooks that see a value when settings are read. -/
inductive MeetsSetting (es : Entries) : (Document → Hooked) → Document → Prop
  | mode {k : Key} {n : Text} {v : Document} (hk : k ∈ settingKeys)
    (h : k.find? es = some (n, v)) : MeetsSetting es modeHook v
  | switch {k : Key} {n : Text} {v : Document} (hk : k ∈ settingKeys)
    (h : k.find? es = some (n, v)) : MeetsSetting es switchHook v

/-! ## Laws -/

/-- An entry under this name is looked up as a setting. -/
def IsUsed (es : Entries) (n : Text) : Prop :=
  ∃ k ∈ settingKeys, ∃ v, k.find? es = some (n, v)

/-- The fault of an entry that is not looked up. -/
def extraFault (n : Text) : Fault := ⟨[.key n], .extra⟩

/-- What is known of the readers.  The laws on settings are about entries under names of settings;
no others are handed to them. -/
structure Readers.Lawful (R : Readers) : Prop where
  /-- Settings are read if each of them is right and every entry is looked up as one. -/
  config_eq_ok_iff : ∀ es c, (∀ e ∈ es, isKnown e.1 = true) →
    (R.config es = .ok c ↔ R.settings es = .ok c ∧ ∀ e ∈ es, ∀ n, e.1 = .text n → IsUsed es n)
  /-- If each of them is right, but not every entry is looked up, each that is not is a fault. -/
  config_extra : ∀ es c, (∀ e ∈ es, isKnown e.1 = true) → R.settings es = .ok c →
    (∃ e ∈ es, ∃ n, e.1 = .text n ∧ ¬ IsUsed es n) →
    ∃ fs, R.config es = .refused (.faults fs) ∧
      ∀ f, f ∈ fs ↔ ∃ e ∈ es, ∃ n, e.1 = .text n ∧ ¬ IsUsed es n ∧ f = extraFault n
  /-- What is raised by reading settings was raised by a hook. -/
  config_raised : ∀ es r, R.config es = .refused (.raised r) →
    ∃ hook v, MeetsSetting es hook v ∧ hook v = .raised r
  /-- What is raised by reading a data model was raised by a hook. -/
  dataModel_raised : ∀ d r, R.dataModel d = .refused (.raised r) →
    ∃ hook v, Meets d hook v ∧ hook v = .raised r
  /-- What a hook raises ends the reading. -/
  dataModel_raises : ∀ d hook v r, Meets d hook v → hook v = .raised r →
    ∃ r', R.dataModel d = .refused (.raised r')
  /-- Paths that are texts are taken as they are. -/
  options_paths : ∀ output? schema? client?,
    R.options (pathEntry "output_path" output? ++ pathEntry "schema_path" schema?
        ++ pathEntry "client_path" client?)
      = .ok ⟨output?.getD "./generated", schema?, client?⟩

/-! ## What the hooks raise -/

theorem switchHook_ne_raised (d : Document) (r : Raised) : switchHook d ≠ .raised r := by
  unfold switchHook
  split
  · split <;> simp
  · simp

theorem modeHook_ne_raised (d : Document) (r : Raised) : modeHook d ≠ .raised r := by
  unfold modeHook
  split_ifs
  · simp
  · exact switchHook_ne_raised d r

theorem hook_ne_raised_of_meetsSetting {es : Entries} {hook : Document → Hooked} {v : Document}
    (h : MeetsSetting es hook v) (r : Raised) : hook v ≠ .raised r := by
  cases h with
  | mode => exact modeHook_ne_raised v r
  | switch => exact switchHook_ne_raised v r

theorem kindHook_ne_raised (d : Document) (r : Raised) : kindHook d ≠ .raised r := by
  unfold kindHook
  split_ifs <;> simp

theorem defaultHook_ne_raised (d : Document) (r : Raised) : defaultHook d ≠ .raised r := by
  unfold defaultHook
  split <;> simp

/-- A list of values with a mapping in it that has no name. -/
def HasNameless (values : Document) : Prop :=
  ∃ items, values.opened = .list items ∧
    ∃ i ∈ items, ∃ es, i.opened = .map es ∧ Document.field? "name" es = none

theorem valueNames?_eq_none_iff (items : List Document) :
    valueNames? items = none ↔
      ∃ i ∈ items, ∃ es, i.opened = .map es ∧ Document.field? "name" es = none := by
  induction items with
  | nil => simp [valueNames?]
  | cons i items ih =>
    simp only [List.mem_cons, exists_eq_or_imp, ← ih]
    rw [valueNames?]
    cases i.opened with
    | map es => cases hn : Document.field? "name" es <;> cases valueNames? items <;> simp [hn]
    | _ => cases valueNames? items <;> simp

theorem valuesHook_eq_raised_iff {d : Document} {r : Raised} :
    valuesHook d = .raised r ↔ HasNameless d ∧ r = missingName := by
  unfold valuesHook HasNameless
  cases hd : d.opened with
  | list items =>
    simp only [Document.list.injEq, exists_eq_left']
    rw [← valueNames?_eq_none_iff]
    cases valueNames? items <;> simp [eq_comm]
  | _ => simp

/-! ## What reading raises -/

/-- A data model with such a list in one of its enumerations. -/
def HasNamelessValue (dataModel : Document) : Prop :=
  ∃ es fs values, dataModel.opened = .map es ∧ HasItem "enums" es fs ∧
    Document.field? "values" fs = some values ∧ HasNameless values

theorem exists_raises_iff {d : Document} {r : Raised} :
    (∃ hook v, Meets d hook v ∧ hook v = .raised r) ↔ HasNamelessValue d ∧ r = missingName := by
  constructor
  · rintro ⟨_, v, hmeets, hraised⟩
    cases hmeets with
    | kind => exact absurd hraised (kindHook_ne_raised v r)
    | default => exact absurd hraised (defaultHook_ne_raised v r)
    | values hd he hv =>
      obtain ⟨hnameless, hr⟩ := valuesHook_eq_raised_iff.1 hraised
      exact ⟨⟨_, _, v, hd, he, hv, hnameless⟩, hr⟩
  · rintro ⟨⟨es, fs, v, hd, he, hv, hnameless⟩, hr⟩
    exact ⟨valuesHook, v, .values hd he hv, valuesHook_eq_raised_iff.2 ⟨hnameless, hr⟩⟩

namespace Readers.Lawful

variable {R : Readers}

theorem config_ne_raised (hR : R.Lawful) (es : Entries) (r : Raised) :
    R.config es ≠ .refused (.raised r) := by
  intro h
  obtain ⟨_, _, hmeets, hraised⟩ := hR.config_raised es r h
  exact hook_ne_raised_of_meetsSetting hmeets r hraised

theorem dataModel_eq_raised_iff (hR : R.Lawful) {d : Document} {r : Raised} :
    R.dataModel d = .refused (.raised r) ↔ HasNamelessValue d ∧ r = missingName := by
  rw [← exists_raises_iff]
  refine ⟨hR.dataModel_raised d r, ?_⟩
  rintro ⟨hook, v, hmeets, hraised⟩
  obtain ⟨r', hr'⟩ := hR.dataModel_raises d hook v r hmeets hraised
  -- There is only one thing that a hook raises.
  obtain ⟨-, rfl⟩ := exists_raises_iff.1 ⟨hook, v, hmeets, hraised⟩
  obtain ⟨-, rfl⟩ := exists_raises_iff.1 (hR.dataModel_raised d r' hr')
  exact hr'

end Readers.Lawful

end ValidatorGen.Intake
