import ValidatorGen.Proofs.Intake.Lawful

/-!
# Reading an input document, stage by stage

* `readRequest_of_settings` — what a reading comes to, once data model and settings are found;
* `readRequest_eq_ok_iff` — when it comes to a request;
* `optionsIn_eq` — the paths are taken as they are, unless there is one that cannot be written;
* `EndsIn`, `readRequest_eq_error_iff` — the stages at which it can end, and with which error.
-/

namespace ValidatorGen.Intake

variable {R : Readers} {raw es : Entries} {d : Document} {folder? : Option Path}

theorem readRequest_of_noDataModel (h : dataModelIn? raw = none) :
    readRequest R raw folder? = .error .noDataModel := by
  unfold readRequest
  rw [h]
  rfl

theorem readRequest_of_settings_error {e : RequestError} (h : dataModelIn? raw = some d)
    (hs : settingsIn raw = .error e) : readRequest R raw folder? = .error e := by
  unfold readRequest
  rw [h, hs]
  rfl

/-- What reading a document comes to, once its data model and its settings are found. -/
theorem readRequest_of_settings (h : dataModelIn? raw = some d) (hs : settingsIn raw = .ok es) :
    readRequest R raw folder? =
      match readHostConfig R es, R.dataModel d with
      | .refused (.faults fs), _ => .error (.settings fs)
      | .refused (.raised r), _ => .error (.raised r)
      | .ok _, .refused (.faults fs) => .error (.dataModel fs)
      | .ok _, .refused (.raised r) => .error (.raised r)
      | .ok c, .ok m => (optionsIn R raw folder?).map fun o => ⟨m, c, o⟩ := by
  unfold readRequest
  rw [h, hs]
  simp only [bind, Except.bind]
  rcases readHostConfig R es with c | (fs | r)
  · simp only [pure, Except.pure]
    rcases R.dataModel d with m | (fs | r)
    · cases optionsIn R raw folder? <;> rfl
    · rfl
    · rfl
  · rfl
  · rfl

/-- A document is read if its data model, its settings and its paths are. -/
theorem readRequest_eq_ok_iff {q : Request} : readRequest R raw folder? = .ok q ↔
    ∃ d es, dataModelIn? raw = some d ∧ settingsIn raw = .ok es ∧
      readHostConfig R es = .ok q.config ∧ R.dataModel d = .ok q.dataModel ∧
      optionsIn R raw folder? = .ok q.options := by
  constructor
  · intro h
    cases hd : dataModelIn? raw with
    | none =>
      rw [readRequest_of_noDataModel hd] at h
      cases h
    | some d =>
      cases hs : settingsIn raw with
      | error e =>
        rw [readRequest_of_settings_error hd hs] at h
        cases h
      | ok es =>
        rw [readRequest_of_settings hd hs] at h
        split at h
        case h_5 c m hc hm =>
          cases ho : optionsIn R raw folder? with
          | error e =>
            rw [ho] at h
            cases h
          | ok o =>
            rw [ho] at h
            cases h
            exact ⟨d, es, rfl, rfl, hc, hm, rfl⟩
        all_goals cases h
  · rintro ⟨d, es, hd, hs, hc, hm, ho⟩
    rw [readRequest_of_settings hd hs, hc, hm, ho]
    rfl

theorem settingsIn_error {e : RequestError} (h : settingsIn raw = .error e) :
    ∃ kind, e = .settingsKind kind := by
  unfold settingsIn at h
  split at h
  · cases h
  · split_ifs at h
    split at h <;> cases h
    exact ⟨_, rfl⟩

/-! ## Paths -/

/-- The names of the paths in a document, in the order in which they are read. -/
def pathKeys : List Key :=
  [⟨"outputPath", "output_path"⟩, ⟨"schemaPath", "schema_path"⟩, ⟨"clientPath", "client_path"⟩]

/-- What keeps a path in a document from being written; null stands for no path. -/
def pathObstacle? (room : Nat) (raw : Entries) (k : Key) : Option Document.Obstacle :=
  match k.find? raw with
  | none => none
  | some (_, .null) => none
  | some (_, d) => d.obstacle? room

/-- What keeps the first path that cannot be written from it. -/
def firstObstacle? (room : Nat) (raw : Entries) : Option Document.Obstacle :=
  pathKeys.findSome? (pathObstacle? room raw)

/-- The path in a document, if nothing keeps it from being written. -/
def pathAt? (raw : Entries) (folder? : Option Path) (k : Key) : Option Text :=
  match k.find? raw with
  | none => none
  | some (_, .null) => none
  | some (_, d) => some (fromFolder folder? d.toText)

theorem pathIn?_eq (room : Nat) (raw : Entries) (folder? : Option Path) (k : Key) :
    pathIn? room raw folder? k = match pathObstacle? room raw k with
      | some b => .error (obstacleError b)
      | none => .ok (pathAt? raw folder? k) := by
  unfold pathIn? pathObstacle? pathAt?
  rcases k.find? raw with _ | ⟨name, v⟩
  · rfl
  · -- Null is told apart from all other values.
    cases v <;> rfl

/-- The paths are taken as they are, unless there is one that cannot be written. -/
theorem optionsIn_eq (hR : R.Lawful) (raw : Entries) (folder? : Option Path) :
    optionsIn R raw folder? = match firstObstacle? R.textRoom raw with
      | some b => .error (obstacleError b)
      | none => .ok
        ⟨(pathAt? raw folder? ⟨"outputPath", "output_path"⟩).getD "./generated",
          pathAt? raw folder? ⟨"schemaPath", "schema_path"⟩,
          pathAt? raw folder? ⟨"clientPath", "client_path"⟩⟩ := by
  unfold optionsIn firstObstacle? pathKeys
  simp only [pathIn?_eq, List.findSome?_cons, List.findSome?_nil]
  cases pathObstacle? R.textRoom raw ⟨"outputPath", "output_path"⟩ with
  | some b => rfl
  | none =>
    cases pathObstacle? R.textRoom raw ⟨"schemaPath", "schema_path"⟩ with
    | some b => rfl
    | none =>
      cases pathObstacle? R.textRoom raw ⟨"clientPath", "client_path"⟩ with
      | some b => rfl
      | none =>
        simp only [bind, Except.bind, hR.options_paths]
        rfl

/-! ## Where a reading ends -/

/-- Where the reading of a document ends, and with which error.  A later stage is reached only if
nothing is wrong before it. -/
inductive EndsIn (R : Readers) (raw : Entries) : RequestError → Prop
  | noDataModel (hd : dataModelIn? raw = none) : EndsIn R raw .noDataModel
  | settingsKind {d : Document} {kind : Text} (hd : dataModelIn? raw = some d)
      (hs : settingsIn raw = .error (.settingsKind kind)) : EndsIn R raw (.settingsKind kind)
  | settings {d : Document} {es : Entries} {fs : List Fault} (hd : dataModelIn? raw = some d)
      (hs : settingsIn raw = .ok es) (hc : readHostConfig R es = .refused (.faults fs)) :
      EndsIn R raw (.settings fs)
  /-- The settings are right, and in an enumeration there is a value without a name. -/
  | nameless {d : Document} {es : Entries} {c : Config} (hd : dataModelIn? raw = some d)
      (hs : settingsIn raw = .ok es) (hc : readHostConfig R es = .ok c)
      (hm : HasNamelessValue d) : EndsIn R raw (.raised missingName)
  | dataModel {d : Document} {es : Entries} {c : Config} {fs : List Fault}
      (hd : dataModelIn? raw = some d) (hs : settingsIn raw = .ok es)
      (hc : readHostConfig R es = .ok c) (hm : R.dataModel d = .refused (.faults fs)) :
      EndsIn R raw (.dataModel fs)
  /-- Settings and data model are right, and in the first path that cannot be written there is a
  number that is too long. -/
  | longPath {d : Document} {es : Entries} {c : Config} {m : DataModel}
      (hd : dataModelIn? raw = some d) (hs : settingsIn raw = .ok es)
      (hc : readHostConfig R es = .ok c) (hm : R.dataModel d = .ok m)
      (ho : firstObstacle? R.textRoom raw = some .longNumber) : EndsIn R raw .longNumber
  /-- Settings and data model are right, and the first path that cannot be written is too deep. -/
  | deepPath {d : Document} {es : Entries} {c : Config} {m : DataModel}
      (hd : dataModelIn? raw = some d) (hs : settingsIn raw = .ok es)
      (hc : readHostConfig R es = .ok c) (hm : R.dataModel d = .ok m)
      (ho : firstObstacle? R.textRoom raw = some .tooDeep) :
      EndsIn R raw (.raised Intake.deepPath)

section

variable (hR : R.Lawful)

include hR

/-- A reading that ends in an error went as one of the stages says. -/
theorem endsIn_of_error {e : RequestError} (h : readRequest R raw folder? = .error e) :
    EndsIn R raw e := by
  cases hd : dataModelIn? raw with
  | none =>
    rw [readRequest_of_noDataModel hd] at h
    cases h
    exact .noDataModel hd
  | some d =>
    cases hs : settingsIn raw with
    | error f =>
      obtain ⟨kind, rfl⟩ := settingsIn_error hs
      rw [readRequest_of_settings_error hd hs] at h
      cases h
      exact .settingsKind hd hs
    | ok es =>
      rw [readRequest_of_settings hd hs] at h
      rcases hc : readHostConfig R es with c | (fs | r)
      · rcases hm : R.dataModel d with m | (fs | r)
        · rw [hc, hm, optionsIn_eq hR] at h
          rcases ho : firstObstacle? R.textRoom raw with _ | (_ | _)
          · rw [ho] at h
            cases h
          · rw [ho] at h
            cases h
            exact .longPath hd hs hc hm ho
          · rw [ho] at h
            cases h
            exact .deepPath hd hs hc hm ho
        · rw [hc, hm] at h
          cases h
          exact .dataModel hd hs hc hm
        · rw [hc, hm] at h
          cases h
          obtain ⟨hnameless, rfl⟩ := hR.dataModel_eq_raised_iff.1 hm
          exact .nameless hd hs hc hnameless
      · rw [hc] at h
        cases h
        exact .settings hd hs hc
      · exact absurd hc (hR.config_ne_raised _ r)

/-- Each of the stages ends the reading. -/
theorem readRequest_of_endsIn {e : RequestError} (h : EndsIn R raw e) :
    readRequest R raw folder? = .error e := by
  cases h with
  | noDataModel hd => exact readRequest_of_noDataModel hd
  | settingsKind hd hs => exact readRequest_of_settings_error hd hs
  | settings hd hs hc => rw [readRequest_of_settings hd hs, hc]
  | nameless hd hs hc hm =>
    rw [readRequest_of_settings hd hs, hc, hR.dataModel_eq_raised_iff.2 ⟨hm, rfl⟩]
  | dataModel hd hs hc hm => rw [readRequest_of_settings hd hs, hc, hm]
  | longPath hd hs hc hm ho =>
    rw [readRequest_of_settings hd hs, hc, hm, optionsIn_eq hR, ho]
    rfl
  | deepPath hd hs hc hm ho =>
    rw [readRequest_of_settings hd hs, hc, hm, optionsIn_eq hR, ho]
    rfl

theorem readRequest_eq_error_iff {e : RequestError} :
    readRequest R raw folder? = .error e ↔ EndsIn R raw e :=
  ⟨endsIn_of_error hR, readRequest_of_endsIn hR⟩

/-- The settings of a document are refused where they are no settings of a host. -/
theorem readRequest_isSettings_iff (h : dataModelIn? raw = some d) (hs : settingsIn raw = .ok es) :
    (∃ e, readRequest R raw folder? = .error e ∧ e.isSettings = true) ↔
      ∃ fs, readHostConfig R es = .refused (.faults fs) := by
  simp only [readRequest_eq_error_iff hR]
  constructor
  · rintro ⟨e, hends, hsettings⟩
    cases hends with
    | settingsKind _ hs' => cases hs.symm.trans hs'
    | settings _ hs' hc =>
      cases hs.symm.trans hs'
      exact ⟨_, hc⟩
    | _ => cases hsettings
  · rintro ⟨fs, hc⟩
    exact ⟨_, .settings h hs hc, rfl⟩

end

end ValidatorGen.Intake
