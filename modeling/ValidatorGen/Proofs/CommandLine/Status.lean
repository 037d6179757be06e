import ValidatorGen.CommandLine.Run
import ValidatorGen.Intake.Standard.Readers
import ValidatorGen.Proofs.Path
import ValidatorGen.Proofs.Run.Report

/-!
# Checking only and running dry

The program can check an input document, or run dry, which checks the document on the way.

* `status_check`, `status_dryRun` — the code of the process in each case, once the document is
  loaded;
* `status_ne_iff` — the two codes differ in three situations and in no other: warnings count as
  errors, but not where the document is only checked; the settings are a list of pairs, which only
  a run puts others over; or the disk refuses to look for the schema source.
-/

namespace ValidatorGen.CommandLine

open Intake (Entries Readers Request RequestError readRequest)
open Run (Mode Task overridden strictEntries looseEntries)

/-! ## What the arguments ask for -/

/-- The run that arguments ask for. -/
def taskOf (a : Arguments) (input output : Path) : Task :=
  { input, output, source? := a.source?, overrides := overrides a }

/-- The input document that arguments name. -/
def Arguments.document (a : Arguments) (d : Disk) : Except Run.Escape Path :=
  placeOf d ((a.value? .schema).getD .empty)

/-- Arguments for checking a document alone, and the same for a dry run to some folder. -/
structure Paired (d : Disk) (output : Path) (a b : Arguments) : Prop where
  checks : a.has .validateOnly = true
  runs : b.has .validateOnly = false
  dry : b.has .dryRun = true
  same : ∀ f ∉ [Flag.validateOnly, .dryRun, .output], a.value? f = b.value? f
  given : ∃ v, b.value? .output = some v ∧ placeOf d v = .ok output
  reachable : ∃ folder, d.resolve output = .ok folder

section

variable {d : Disk} {output : Path} {a b : Arguments}

theorem Paired.overrides_eq (h : Paired d output a b) : overrides a = overrides b := by
  have hhas : ∀ f ∉ [Flag.validateOnly, .dryRun, .output], a.has f = b.has f := by
    intro f hf
    have hv : Ordered.get? f a.values = Ordered.get? f b.values := h.same f hf
    rw [Arguments.has, Arguments.has, hv]
  simp only [overrides, h.same .relationModel (by decide), h.same .modelSuffix (by decide),
    h.same .modelCase (by decide), h.same .zodImport (by decide), hhas .coerce (by decide),
    hhas .standaloneEnums (by decide)]

theorem Paired.document_eq (h : Paired d output a b) : a.document d = b.document d := by
  unfold Arguments.document
  rw [h.same .schema (by decide)]

end

/-! ## The two codes -/

/-- The code of a process that ends with a code, or that something ends. -/
def statusOf : Except Run.Escape Code → Nat
  | .ok c => c.number
  | .error _ => 1

/-- The code after a document is read; `go` says how it goes on. -/
def readStatus (go : Request → Nat) : Except RequestError Request → Nat
  | .error (.raised _) => 1
  | .error e => if e.isSettings then 1 else 4
  | .ok q => go q

/-- What the check of a request finds. -/
def findingsOf (q : Request) : Check.Report := Check.reportOf (Check.findings q.dataModel q.config)

/-- The disk lets the schema source be looked for. -/
def findsHints (d : Disk) (t : Task) (q : Request) : Bool :=
  (Native.resolve d (t.options q.options).schemaPath?).isOk

section

variable {R : Readers} {a : Arguments} {o : Occasion} {d : Disk} {raw : Entries}

/-- Checking alone asks for a valid document. -/
theorem status_check {input : Path} (h : (Run.load R d input).2 = .ok raw) :
    statusOf (check R a o d input).2.2 =
      match overridden strictEntries (overrides a) raw with
      | .error _ => 1
      | .ok raw => readStatus (fun q => if (findingsOf q).isValid then 0 else 1)
          (readRequest R raw (some input.parent)) := by
  obtain ⟨j, hload⟩ : ∃ j, Run.load R d input = (j, .ok raw) := ⟨_, Prod.ext rfl h⟩
  unfold check
  rw [hload]
  dsimp only
  cases overridden strictEntries (overrides a) raw with
  | error f => rfl
  | ok raw =>
    dsimp only
    rcases readRequest R raw (some input.parent) with e | q
    · cases e <;> rfl
    · unfold readStatus findingsOf
      dsimp only
      split_ifs <;> rfl

/-- The code for how a run ends. -/
def exitOf (x : Except Run.Escape RunReport) : Nat := statusOf (x.map codeOf)

variable {m : Mode} {q : Request} {t : Task}

theorem codeOf_of_accounts {c : Check.Report} {r r' : RunReport} (h : Run.Accounts m c r r')
    (hd : m.dryRun = true) (hi : Run.IsRead r) (hx : r.exportErrors = [])
    (hg : r'.generationErrors = []) :
    codeOf r' = if Run.passes m c then .success else .checkFault := by
  have hclean : r'.success = r'.validationErrors.isEmpty := by
    rw [h.success, RunReport.isClean, h.input, h.config, h.dry hd, hi.1, hi.2, hx, hg]
    cases r'.validationErrors <;> rfl
  unfold codeOf
  rw [hclean, h.input, h.config, hi.1, hi.2]
  by_cases hp : Run.passes m c = true
  · rw [h.check.2 hp, hp]
    rfl
  · obtain ⟨e, es, he⟩ := List.exists_cons_of_ne_nil (mt h.check.1 hp)
    rw [he, if_neg hp]
    rfl

/-- A dry run asks for a document whose check passes, and for hints. -/
theorem exitOf_work {r : RunReport} (hd : m.dryRun = true) (hi : Run.IsRead r)
    (hf : r.files = []) (hx : r.exportErrors = [])
    (hg : ∀ r', (Run.work m o d q none r).result = .ok r' → r'.generationErrors = []) :
    exitOf (Run.work m o d q none r).result =
      if Run.passes m (findingsOf q) && (Native.resolve d q.options.schemaPath?).isOk then 0
      else 1 := by
  have hresult : (∃ r', (Run.work m o d q none r).result = .ok r') ↔ _ :=
    Run.result_dryRun_iff hd hi hf
  have hstops : Run.passes m (findingsOf q) = true → ¬ Run.stops m q = true := by
    intro hp hs
    have hnot : Run.passes m (findingsOf q) = false :=
      Bool.not_eq_true' _ |>.mp (Bool.and_eq_true_iff.1 hs).2
    exact Bool.false_ne_true (hnot.symm.trans hp)
  cases hw : (Run.work m o d q none r).result with
  | ok r' =>
    have hcode : codeOf r' = if Run.passes m (findingsOf q) then .success else .checkFault :=
      codeOf_of_accounts (Run.accounts_work hw) hd hi hx (hg r' hw)
    unfold exitOf statusOf Except.map
    dsimp only
    rw [hcode]
    by_cases hp : Run.passes m (findingsOf q) = true
    · have hfind := (hresult.1 ⟨r', hw⟩).resolve_left (hstops hp)
      simp [hp, hfind, Code.number]
    · simp [hp, Code.number]
  | error e =>
    have hnone : ¬ ∃ r', (Run.work m o d q none r).result = .ok r' := by
      rintro ⟨r', hr⟩
      rw [hw] at hr
      cases hr
    rw [hresult, not_or] at hnone
    simp [hnone.2, exitOf, statusOf, Except.map]

/-- So does a dry run on a document. -/
theorem status_dryRun {folder : Path} (hd : m.dryRun = true)
    (hout : d.resolve t.output = .ok folder) (h : (Run.load R d t.input).2 = .ok raw)
    (hg : ∀ r, (t.generate R m o d).result = .ok r → r.generationErrors = []) :
    exitOf (t.generate R m o d).result =
      match overridden looseEntries t.overrides raw with
      | .error _ => 1
      | .ok raw => readStatus
          (fun q => if Run.passes m (findingsOf q) && findsHints d t q then 0 else 1)
          (readRequest R raw (some (t.input.absolutePath d.cwd).parent)) := by
  obtain ⟨j, hload⟩ : ∃ j, Run.load R d t.input = (j, .ok raw) := ⟨_, Prod.ext rfl h⟩
  unfold Task.generate Task.workOn at hg ⊢
  simp only [hout, hload] at hg ⊢
  cases hover : overridden looseEntries t.overrides raw with
  | error f => rfl
  | ok raw =>
    simp only [hover] at hg ⊢
    cases hread : readRequest R raw (some (t.input.absolutePath d.cwd).parent) with
    | error e => cases e <;> rfl
    | ok q =>
      simp only [hread] at hg ⊢
      exact exitOf_work hd ⟨rfl, rfl⟩ rfl rfl hg

end

/-! ## Where they part -/

/-- Where a check of a document and a dry run on it end with different codes. -/
inductive Parts (R : Readers) (m : Mode) (d : Disk) (t : Task) : Prop
  /-- The document is valid, with warnings that the run takes for errors. -/
  | warnings {raw raw' : Entries} {q : Request} (hload : (Run.load R d t.input).2 = .ok raw)
      (hover : overridden strictEntries t.overrides raw = .ok raw')
      (hread : readRequest R raw' (some t.input.parent) = .ok q)
      (hvalid : (findingsOf q).isValid = true) (hpass : Run.passes m (findingsOf q) = false)
  /-- The disk refuses to look for the schema source, which a check does not need. -/
  | hints {raw raw' : Entries} {q : Request} (hload : (Run.load R d t.input).2 = .ok raw)
      (hover : overridden strictEntries t.overrides raw = .ok raw')
      (hread : readRequest R raw' (some t.input.parent) = .ok q)
      (hpass : Run.passes m (findingsOf q) = true) (hfind : findsHints d t q = false)
  /-- The run takes a list of pairs for settings, and then all is well. -/
  | pairs {raw raw' : Entries} {e : Run.OverrideFault} {q : Request}
      (hload : (Run.load R d t.input).2 = .ok raw)
      (hover : overridden strictEntries t.overrides raw = .error e)
      (hpairs : overridden looseEntries t.overrides raw = .ok raw')
      (hread : readRequest R raw' (some t.input.parent) = .ok q)
      (hpass : Run.passes m (findingsOf q) = true) (hfind : findsHints d t q = true)
  /-- The run takes a list of pairs for settings, and then the data model is at fault. -/
  | dataModel {raw raw' : Entries} {e : Run.OverrideFault} {f : RequestError}
      (hload : (Run.load R d t.input).2 = .ok raw)
      (hover : overridden strictEntries t.overrides raw = .error e)
      (hpairs : overridden looseEntries t.overrides raw = .ok raw')
      (hread : readRequest R raw' (some t.input.parent) = .error f)
      (hname : ∀ r, f ≠ .raised r) (hsettings : f.isSettings = false)

theorem Parts.loaded {R : Readers} {m : Mode} {d : Disk} {t : Task} (h : Parts R m d t) :
    ∃ raw, (Run.load R d t.input).2 = .ok raw := by
  cases h with
  | warnings hload => exact ⟨_, hload⟩
  | hints hload => exact ⟨_, hload⟩
  | pairs hload => exact ⟨_, hload⟩
  | dataModel hload => exact ⟨_, hload⟩

/-- What a mapping lists is what it holds. -/
theorem looseEntries_of_strictEntries {settings : Document} {es : Entries}
    (h : strictEntries settings = .ok es) : looseEntries settings = .ok es := by
  unfold strictEntries at h
  unfold looseEntries
  split_ifs at h ⊢
  · exact h
  · split at h
    · exact h
    · cases h

theorem overridden_loose_of_strict {new raw raw' : Entries}
    (h : overridden strictEntries new raw = .ok raw') :
    overridden looseEntries new raw = .ok raw' := by
  unfold overridden at h ⊢
  split_ifs at h ⊢
  · exact h
  · cases hs : strictEntries ((Document.field? "config" raw).getD .null) with
    | error e => rw [hs] at h; cases h
    | ok es =>
      rw [hs] at h
      rw [looseEntries_of_strictEntries hs]
      exact h

section

variable {R : Readers} {m : Mode} {o : Occasion} {d : Disk} {t : Task} {a b : Arguments}
  {input output : Path}

/-- The code of the process that only checks a document. -/
theorem status_runOn_check (hf : d.isFile input = .ok true) (ha : a.has .validateOnly = true) :
    (runOn R a o d input).status = statusOf (check R a o d input).2.2 := by
  unfold runOn
  simp only [hf, ha, if_true]
  cases (check R a o d input).2.2 <;> rfl

theorem status_generate (R : Readers) (b : Arguments) (o : Occasion) (d : Disk) (input output : Path) :
    (generate R b o d input output).status
      = exitOf ((taskOf b input output).generate R (mode b) o d).result := by
  have htask : ({ input, output, source? := b.source?, overrides := overrides b } : Task)
      = taskOf b input output := rfl
  unfold generate
  dsimp only
  rw [htask]
  cases ((taskOf b input output).generate R (mode b) o d).result <;> rfl

/-- The code of the process that generates from a document. -/
theorem status_runOn_generate {v : Value} (hf : d.isFile input = .ok true)
    (hb : b.has .validateOnly = false) (hv : b.value? .output = some v)
    (hout : placeOf d v = .ok output) :
    (runOn R b o d input).status
      = exitOf ((taskOf b input output).generate R (mode b) o d).result := by
  unfold runOn
  simp only [hf, hb, Bool.false_eq_true, if_false, hv, hout]
  exact status_generate R b o d input output

/-- A document that cannot be loaded ends both alike. -/
theorem status_of_not_loaded {f : Run.LoadFault} {folder : Path}
    (hout : d.resolve t.output = .ok folder) (h : (Run.load R d t.input).2 = .error f) :
    statusOf (check R a o d t.input).2.2 = exitOf (t.generate R m o d).result := by
  obtain ⟨j, hload⟩ : ∃ j, Run.load R d t.input = (j, .error f) := ⟨_, Prod.ext rfl h⟩
  unfold check Task.generate
  simp only [hout, hload]
  split_ifs <;> rfl

theorem isFile_of_loaded {raw : Entries} (h : (Run.load R d input).2 = .ok raw) :
    d.isFile input = .ok true := by
  unfold Run.load at h
  unfold Disk.isFile
  cases hf : d.find? input with
  | error f => rw [hf] at h; cases h
  | ok n? =>
    rw [hf] at h
    cases n? with
    | none => cases h
    | some n =>
      dsimp only at h
      by_cases hn : n.isFolder = true
      · rw [if_pos hn] at h
        cases h
      · simp [Except.map, hn]

/-- A document that is read the same way both times. -/
theorem readStatus_ne_iff (d : Disk) (t : Task) (m : Mode) (x : Except RequestError Request) :
    readStatus (fun q => if (findingsOf q).isValid then 0 else 1) x
        ≠ readStatus (fun q => if Run.passes m (findingsOf q) && findsHints d t q then 0 else 1) x
      ↔ ∃ q, x = .ok q ∧ (findingsOf q).isValid = true ∧
        (Run.passes m (findingsOf q) = false ∨
          Run.passes m (findingsOf q) = true ∧ findsHints d t q = false) := by
  cases x with
  | error e => cases e <;> simp [readStatus]
  | ok q =>
    have hvalid : Run.passes m (findingsOf q) = true → (findingsOf q).isValid = true :=
      fun h => (Bool.and_eq_true_iff.1 h).1
    unfold readStatus
    cases hv : (findingsOf q).isValid <;> cases hp : Run.passes m (findingsOf q) <;>
      cases hf : findsHints d t q <;> simp_all

/-- A run that goes on where the check is over ends with another code if all is well, or if the
document is no data model. -/
theorem one_ne_readStatus_iff (d : Disk) (t : Task) (m : Mode) (x : Except RequestError Request) :
    1 ≠ readStatus (fun q => if Run.passes m (findingsOf q) && findsHints d t q then 0 else 1) x
      ↔ (∃ q, x = .ok q ∧ Run.passes m (findingsOf q) = true ∧ findsHints d t q = true) ∨
        ∃ f, x = .error f ∧ (∀ r, f ≠ .raised r) ∧ f.isSettings = false := by
  cases x with
  | error e => cases e <;> simp [readStatus, RequestError.isSettings]
  | ok q =>
    unfold readStatus
    cases hp : Run.passes m (findingsOf q) <;> cases hf : findsHints d t q <;> simp_all

/-- On a document that is loaded the codes differ where the two part. -/
theorem status_ne_iff_of_loaded {raw : Entries} {folder : Path} (hd : m.dryRun = true)
    (hout : d.resolve t.output = .ok folder) (hover : overrides a = t.overrides)
    (hinput : t.input.absolutePath d.cwd = t.input) (hload : (Run.load R d t.input).2 = .ok raw)
    (hg : ∀ r, (t.generate R m o d).result = .ok r → r.generationErrors = []) :
    statusOf (check R a o d t.input).2.2 ≠ exitOf (t.generate R m o d).result ↔ Parts R m d t := by
  rw [status_check hload, status_dryRun hd hout hload hg, hover, hinput]
  constructor
  · intro hne
    cases hs : overridden strictEntries t.overrides raw with
    | ok raw' =>
      rw [hs, overridden_loose_of_strict hs] at hne
      obtain ⟨q, hq, hv, hp | ⟨hp, hf⟩⟩ := (readStatus_ne_iff d t m _).1 hne
      · exact .warnings hload hs hq hv hp
      · exact .hints hload hs hq hp hf
    | error e =>
      rw [hs] at hne
      cases hl : overridden looseEntries t.overrides raw with
      | error e' =>
        rw [hl] at hne
        exact absurd rfl hne
      | ok raw' =>
        rw [hl] at hne
        rcases (one_ne_readStatus_iff d t m _).1 hne with ⟨q, hq, hp, hf⟩ | ⟨f, hf, hn, hk⟩
        · exact .pairs hload hs hl hq hp hf
        · exact .dataModel hload hs hl hf hn hk
  · intro h
    cases h with
    | warnings hl hs hq hv hp =>
      cases hload.symm.trans hl
      rw [hs, overridden_loose_of_strict hs]
      exact (readStatus_ne_iff d t m _).2 ⟨_, hq, hv, .inl hp⟩
    | hints hl hs hq hp hf =>
      cases hload.symm.trans hl
      rw [hs, overridden_loose_of_strict hs]
      exact (readStatus_ne_iff d t m _).2
        ⟨_, hq, (Bool.and_eq_true_iff.1 hp).1, .inr ⟨hp, hf⟩⟩
    | pairs hl hs hp hq hk hf =>
      cases hload.symm.trans hl
      rw [hs, hp]
      exact (one_ne_readStatus_iff d t m _).2 (.inl ⟨_, hq, hk, hf⟩)
    | dataModel hl hs hp hf hn hk =>
      cases hload.symm.trans hl
      rw [hs, hp]
      exact (one_ne_readStatus_iff d t m _).2 (.inr ⟨_, hf, hn, hk⟩)

end

/-! ## The two processes -/

theorem status_ne_iff_of_task {R : Readers} {m : Mode} {o : Occasion} {d : Disk} {t : Task} {a : Arguments}
    {folder : Path} (hd : m.dryRun = true) (hout : d.resolve t.output = .ok folder)
    (hover : overrides a = t.overrides) (hinput : t.input.absolutePath d.cwd = t.input)
    (hg : ∀ r, (t.generate R m o d).result = .ok r → r.generationErrors = []) :
    statusOf (check R a o d t.input).2.2 ≠ exitOf (t.generate R m o d).result ↔ Parts R m d t := by
  cases hl : (Run.load R d t.input).2 with
  | ok raw => exact status_ne_iff_of_loaded hd hout hover hinput hl hg
  | error f =>
    rw [status_of_not_loaded hout hl]
    refine iff_of_false (fun hne => hne rfl) fun hp => ?_
    obtain ⟨raw, hload⟩ := hp.loaded
    cases hl.symm.trans hload

/-- Arguments name a document by its absolute path. -/
theorem absolutePath_of_document {d : Disk} {b : Arguments} {input : Path}
    (h : b.document d = .ok input) : input.absolutePath d.cwd = input := by
  unfold Arguments.document placeOf at h
  cases hv : (b.value? .schema).getD .empty with
  | empty =>
    rw [hv] at h
    cases h
  | text s =>
    simp only [hv] at h
    cases hr : d.resolve (.ofText s) with
    | error f =>
      rw [hr] at h
      cases h
    | ok p =>
      rw [hr] at h
      cases h
      exact Disk.absolutePath_of_resolve hr d.cwd

/-- What both make of a document that is no file. -/
theorem status_runOn_of_not_isFile (R : Readers) (a : Arguments) (o : Occasion) {d : Disk} {input : Path}
    (h : d.isFile input ≠ .ok true) :
    (runOn R a o d input).status = if (d.isFile input).isOk then 4 else 1 := by
  unfold runOn
  rcases hf : d.isFile input with f | _ | _
  · rfl
  · rfl
  · exact absurd hf h

/-- A process whose document cannot even be looked for ends with 1. -/
theorem status_run_of_error {R : Readers} {d : Disk} {o : Occasion} {as : List Text} {a : Arguments}
    (ha : arguments as = .ok a) {e : Run.Escape} (h : a.document d = .error e) :
    (run R o d as).status = 1 := by
  unfold Arguments.document at h
  unfold run runWith
  rw [ha]
  dsimp only
  rw [h]
  rfl

theorem status_run_of_ok {R : Readers} {d : Disk} {o : Occasion} {as : List Text} {a : Arguments}
    (ha : arguments as = .ok a) {input : Path} (h : a.document d = .ok input) :
    (run R o d as).status = (runOn R a o d input).status := by
  unfold Arguments.document at h
  unfold run runWith
  rw [ha]
  dsimp only
  rw [h]

/-- **Checking only and running dry.**  For arguments that check a document, and the same arguments
for a dry run of which the generation reports no error, the codes of the two processes differ where
`Parts` says, and are equal everywhere else. -/
theorem status_ne_iff {R : Readers} {d : Disk} {o : Occasion} {as bs : List Text} {a b : Arguments}
    {output : Path} (ha : arguments as = .ok a) (hb : arguments bs = .ok b)
    (h : Paired d output a b)
    (hg : ∀ input, b.document d = .ok input → ∀ r,
      ((taskOf b input output).generate R (mode b) o d).result = .ok r → r.generationErrors = []) :
    (run R o d as).status ≠ (run R o d bs).status ↔
      ∃ input, b.document d = .ok input ∧ Parts R (mode b) d (taskOf b input output) := by
  have hdocument := h.document_eq
  cases hdoc : b.document d with
  | error e => simp [status_run_of_error ha (hdocument.trans hdoc), status_run_of_error hb hdoc]
  | ok input =>
    rw [status_run_of_ok ha (hdocument.trans hdoc), status_run_of_ok hb hdoc]
    have hex : (∃ i, Except.ok input = (.ok i : Except Run.Escape Path)
        ∧ Parts R (mode b) d (taskOf b i output)) ↔ Parts R (mode b) d (taskOf b input output) := by
      simp
    rw [hex]
    obtain ⟨v, hv, hout⟩ := h.given
    obtain ⟨folder, hfolder⟩ := h.reachable
    have hparts : Parts R (mode b) d (taskOf b input output) → d.isFile input = .ok true := by
      intro hp
      obtain ⟨raw, hload⟩ := hp.loaded
      exact isFile_of_loaded hload
    by_cases hf : d.isFile input = .ok true
    · rw [status_runOn_check hf h.checks, status_runOn_generate hf h.runs hv hout]
      exact status_ne_iff_of_task (t := taskOf b input output) h.dry hfolder h.overrides_eq
        (absolutePath_of_document hdoc) (hg input hdoc)
    · rw [status_runOn_of_not_isFile R a o hf, status_runOn_of_not_isFile R b o hf]
      exact iff_of_false (fun hne => hne rfl) (fun hp => hf (hparts hp))

/-- A disk with one document, in which the type of a field is an enumeration that is not declared:
that is worth a warning. -/
def roleDisk : Disk :=
  let document : Text := "datamodel:\n models:\n - name: User\n   fields:\n" ++
    "   - name: role\n     kind: enum\n     type: Role\n"
  ⟨.folder [("d.yaml", .file (Text.Utf8.encode document))], []⟩

/-- The arguments for a dry run on it that takes warnings for errors. -/
def roleArguments : Arguments :=
  ⟨[(.schema, .text "d.yaml"), (.dryRun, .empty), (.output, .text "out"),
    (.failOnWarnings, .empty)], 0⟩

/-- On this document the two part. -/
theorem status_ne_iff_role :
    ∃ input, roleArguments.document roleDisk = .ok input ∧
      Parts .standard (mode roleArguments) roleDisk (taskOf roleArguments input ⟨1, ["out"]⟩) := by
  let o : Occasion := ⟨"2024-01-01T00:00:00", "00:00:00", 0, "abcdefgh"⟩
  let a : Arguments :=
    ⟨[(.schema, .text "d.yaml"), (.validateOnly, .empty), (.failOnWarnings, .empty)], 0⟩
  have ha : arguments ["-s", "d.yaml", "--validate-only", "--fail-on-warnings"] = .ok a := rfl
  have hb : arguments ["-s", "d.yaml", "--dry-run", "-o", "out", "--fail-on-warnings"]
      = .ok roleArguments := rfl
  have h : Paired roleDisk ⟨1, ["out"]⟩ a roleArguments :=
    { checks := rfl
      runs := rfl
      dry := rfl
      same := fun f hf => by cases f <;> first | rfl | simp at hf
      given := ⟨.text "out", rfl, rfl⟩
      reachable := ⟨⟨1, ["out"]⟩, rfl⟩ }
  have hdoc : roleArguments.document roleDisk = .ok ⟨1, ["d.yaml"]⟩ := rfl
  refine (status_ne_iff (o := o) ha hb h ?_).1 (by decide +kernel)
  intro input hinput r hr
  rw [hdoc] at hinput
  cases hinput
  have hnone : ((taskOf roleArguments ⟨1, ["d.yaml"]⟩ ⟨1, ["out"]⟩).generate .standard (mode roleArguments)
      o roleDisk).result.toOption.map RunReport.generationErrors = some [] := by decide +kernel
  rw [hr] at hnone
  exact Option.some.inj hnone

/-- The check alone ends with 0, and the dry run, which generates no module and so meets no error
there, with 1. -/
theorem status_ne :
    let o : Occasion := ⟨"2024-01-01T00:00:00", "00:00:00", 0, "abcdefgh"⟩
    let status (as : List Text) : Nat := (run .standard o roleDisk as).status
    status ["-s", "d.yaml", "--validate-only", "--fail-on-warnings"] = 0 ∧
      status ["-s", "d.yaml", "--dry-run", "-o", "out", "--fail-on-warnings"] = 1 ∧
      ((taskOf roleArguments ⟨1, ["d.yaml"]⟩ ⟨1, ["out"]⟩).generate .standard (mode roleArguments)
        o roleDisk).result.toOption.map RunReport.generationErrors = some [] := by
  decide +kernel

end ValidatorGen.CommandLine
