import ValidatorGen.Proofs.Intake.Request
import ValidatorGen.Proofs.Intake.Standard

/-!
# How reading an input document can end

Reading an input document gives a request, or it ends in an error.  It is announced that the
settings are at fault, or a value is.  Two more errors get through: a key that is missing where a
name is looked up, and a path that is too deep to be written.

* `keepsContract_readRequest_iff` — these two alone break the announcement.
-/

namespace ValidatorGen.Intake

/-- The classes of errors that are announced: that of the settings, that of values, and a part of
the latter. -/
def announcedClasses : List Text := ["ConfigurationError", "ValueError", "ValidationError"]

/-- There is a request, or an error of a class that is announced. -/
def KeepsContract (x : Except RequestError Request) : Prop :=
  (∃ q, x = .ok q) ∨ ∃ e, x = .error e ∧ e.className ∈ announcedClasses

/-- What is raised is of no class that is announced, and all else is. -/
theorem EndsIn.className_mem_iff {R : Readers} {raw : Entries} {e : RequestError}
    (h : EndsIn R raw e) : e.className ∈ announcedClasses ↔ ∀ r, e ≠ .raised r := by
  cases h with
  | nameless | deepPath => exact iff_of_false (by decide) (by simp)
  | settingsKind | settings =>
    exact iff_of_true (show ("ConfigurationError" : Text) ∈ announcedClasses by decide) (by simp)
  | noDataModel | dataModel | longPath =>
    exact iff_of_true (show ("ValueError" : Text) ∈ announcedClasses by decide) (by simp)

/-- **How reading a document can end.**  For lawful readers it gives a request, or an error of a
class that is announced, unless its settings are right and either a mapping among the values of an
enumeration has no name, or the data model is right as well and the first path that cannot be
written is too deep.  Each error arises exactly where one of the stages of the reading ends it. -/
theorem keepsContract_readRequest_iff {R : Readers} (hR : R.Lawful) (raw : Entries)
    (folder? : Option Path) :
    (KeepsContract (readRequest R raw folder?) ↔
      ¬ ∃ d es c, dataModelIn? raw = some d ∧ settingsIn raw = .ok es ∧
        readHostConfig R es = .ok c ∧ (HasNamelessValue d ∨
          (∃ m, R.dataModel d = .ok m) ∧ firstObstacle? R.textRoom raw = some .tooDeep)) ∧
      ∀ e, readRequest R raw folder? = .error e ↔ EndsIn R raw e := by
  refine ⟨⟨?_, fun hnone => ?_⟩, fun e => readRequest_eq_error_iff hR⟩
  · rintro hkeeps ⟨d, es, c, hd, hs, hc, hbroken⟩
    obtain ⟨r, hends⟩ : ∃ r, EndsIn R raw (.raised r) := by
      rcases hbroken with hm | ⟨⟨m, hm⟩, ho⟩
      · exact ⟨_, .nameless hd hs hc hm⟩
      · exact ⟨_, .deepPath hd hs hc hm ho⟩
    unfold KeepsContract at hkeeps
    rw [readRequest_of_endsIn hR hends] at hkeeps
    obtain ⟨_, ⟨⟩⟩ | ⟨_, ⟨⟩, hclass⟩ := hkeeps
    exact hends.className_mem_iff.1 hclass r rfl
  · cases hread : readRequest R raw folder? with
    | ok q => exact .inl ⟨q, rfl⟩
    | error e =>
      have hends := endsIn_of_error hR hread
      refine .inr ⟨e, rfl, hends.className_mem_iff.2 ?_⟩
      rintro r rfl
      cases hends with
      | nameless hd hs hc hm => exact hnone ⟨_, _, _, hd, hs, hc, .inl hm⟩
      | deepPath hd hs hc hm ho => exact hnone ⟨_, _, _, hd, hs, hc, .inr ⟨⟨_, hm⟩, ho⟩⟩

/-- A document with one enumeration, whose only value is this one. -/
def documentWithValue (value : Document) : Entries :=
  [(.text "datamodel", .map
    [(.text "models", .list []),
      (.text "enums", .list
        [.map [(.text "name", .text "Role"), (.text "values", .list [value])]])])]

/-- The value has a name, and there are no paths. -/
theorem keepsContract_readRequest_role :
    Readers.standard.Lawful ∧
      KeepsContract (readRequest .standard
        (documentWithValue (.map [(.text "name", .text "A")])) none) := by
  refine ⟨readers_standard_lawful,
    (keepsContract_readRequest_iff readers_standard_lawful _ none).1.2 ?_⟩
  rintro ⟨d, es, c, hd, -, -, hnameless | ⟨-, ho⟩⟩
  · cases hd
    cases readers_standard_lawful.dataModel_eq_raised_iff.2 ⟨hnameless, rfl⟩
  · cases ho

/-- The value has a key, but no name. -/
theorem not_keepsContract_readRequest :
    ¬ KeepsContract (readRequest .standard
      (documentWithValue (.map [(.text "id", .text "A")])) none) := by
  have hread : readRequest .standard (documentWithValue (.map [(.text "id", .text "A")])) none
      = .error (.raised missingName) := rfl
  unfold KeepsContract
  rw [hread]
  rintro (⟨_, ⟨⟩⟩ | ⟨_, ⟨⟩, hclass⟩)
  revert hclass
  decide

end ValidatorGen.Intake
