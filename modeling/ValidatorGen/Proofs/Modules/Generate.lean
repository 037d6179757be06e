import ValidatorGen.Proofs.Check.Verdict
import ValidatorGen.Proofs.Identifier
import ValidatorGen.Proofs.Script.Exports

/-!
# The modules of a valid run

* `emission_eq_ok_iff` — modules come out unless a default cannot be written;
* `generate_of_isValid` — no module takes the place of another one, and the index exports them all,
  unless the name of a model ends in a line feed.
-/

namespace ValidatorGen.Emitter

open Ordered Script

variable {e : Emitter} {d : DataModel}

/-- The files of a run, in order. -/
def fileNames (e : Emitter) (d : DataModel) : List Text :=
  let enums : List Text := if e.emitsEnums d then ["enums.ts"] else []
  "index.ts" :: (enums ++ d.models.map fun m => moduleFileName m.name)

/-- The index of these files exports every other file again, once, and nothing else. -/
def IsIndexed (files : Files) : Prop :=
  ∃ index ts, get? ("index.ts" : Text) files = some index ∧ exports? index = some ts ∧
    (ts.map fileOf?).Perm (((keys files).erase "index.ts").map some)

/-! ## Names of files -/

theorem keys_allModules (e : Emitter) (d : DataModel) :
    keys (e.allModules d) = e.fileNames d := by
  unfold allModules fileNames keys
  dsimp only
  rw [List.map_cons, List.map_append, List.map_map]
  split_ifs <;> rfl

theorem nodup_fileNames (h : (Check.reportOf (Check.findings d e.config)).isValid = true) :
    (e.fileNames d).Nodup := by
  obtain ⟨hnodup, hmodels⟩ := Check.nodup_of_isValid h
  have hnot : ∀ file : Text, (∀ m ∈ d.models, moduleFileName m.name ≠ file) →
      file ∉ d.models.map fun m => moduleFileName m.name := by
    intro file hfile hm
    obtain ⟨m, hm, he⟩ := List.mem_map.1 hm
    exact hfile m hm he
  have hindex := hnot "index.ts" fun m hm => (hmodels m hm).2
  unfold fileNames
  dsimp only
  by_cases hs : e.emitsEnums d = true
  · rw [if_pos hs]
    refine List.nodup_cons.2 ⟨fun hm => ?_, List.nodup_cons.2 ⟨?_, hnodup⟩⟩
    · rcases List.mem_cons.1 hm with he | hm
      · exact absurd he (by decide)
      · exact hindex hm
    · exact hnot "enums.ts" (Check.enumsFile_of_isValid h hs)
  · rw [if_neg hs]
    exact List.nodup_cons.2 ⟨hindex, hnodup⟩

theorem generate_eq_allModules
    (h : (Check.reportOf (Check.findings d e.config)).isValid = true) :
    e.generate d = e.allModules d :=
  ofList_of_nodup (keys_allModules e d ▸ nodup_fileNames h)

/-! ## The index -/

/-- The modules that the index exports again. -/
def indexTargets (models : List Model) (withEnums : Bool) : List Text :=
  let enums : List Text := if withEnums then ["./enums"] else []
  (models.map fun m => "./" ++ moduleStem m.name) ++ enums

theorem join_lines (l : Text) (ls : List Text) :
    Text.join "\n" (l :: ls) ++ ("\n" : Text) = (l :: ls).flatMap fun l => l ++ ("\n" : Text) := by
  induction ls generalizing l with
  | nil => simp [Text.join]
  | cons k ls ih =>
    rw [Text.join_cons_cons, List.append_assoc, List.append_assoc, ih]
    exact (List.append_assoc l _ _).symm

theorem indexModule_eq (models : List Model) (b : Bool) :
    indexModule models b = exportLines (indexTargets models b) := by
  have hlines : (models.map fun m => exportAll ("./" ++ moduleStem m.name))
      ++ (if b then [exportAll "./enums"] else []) = (indexTargets models b).map exportAll := by
    unfold indexTargets
    rw [List.map_append, List.map_map]
    cases b <;> rfl
  unfold indexModule
  rw [hlines, exportLines]
  cases indexTargets models b with
  | nil => rfl
  | cons t ts =>
    rw [List.map_cons]
    dsimp only
    rw [List.isEmpty_cons, if_neg Bool.false_ne_true, join_lines, ← List.map_cons,
      List.flatMap_map]

theorem fileOf?_append (stem : Text) : fileOf? ("./" ++ stem) = some (stem ++ ".ts") := by
  unfold fileOf?
  rw [Text.dropStart?_eq_some.2 rfl]
  rfl

/-- The index names the files of a run with the enumerations at the end. -/
theorem perm_indexTargets (e : Emitter) (d : DataModel) :
    ((indexTargets d.models (e.emitsEnums d)).map fileOf?).Perm
      (((e.fileNames d).erase "index.ts").map some) := by
  have hmodels : (d.models.map fun m => ("./" : Text) ++ moduleStem m.name).map fileOf?
      = (d.models.map fun m => moduleFileName m.name).map some := by
    rw [List.map_map, List.map_map]
    exact List.map_congr_left fun m _ => fileOf?_append _
  unfold indexTargets fileNames
  dsimp only
  rw [List.erase_cons_head, List.map_append, List.map_append, hmodels]
  cases e.emitsEnums d with
  | false => simp
  | true => exact List.perm_append_comm

/-! ## Ends of lines in names -/

theorem endsLine_toLower {c : CodePoint} (h : c.toNat < 0x80) :
    endsLine c.toLower = endsLine c :=
  CodePoint.forall_ascii (P := fun c => endsLine c.toLower = endsLine c) (by decide) h

theorem endsLine_of_continuesIdentifier {c : CodePoint}
    (h : Check.continuesIdentifier c = true) : endsLine c = false := by
  have hn : c ≠ '\n' := by
    rintro rfl
    exact absurd h (by decide)
  have hr : c ≠ '\r' := by
    rintro rfl
    exact absurd h (by decide)
  simp [endsLine, hn, hr]

/-- The file of an accepted name holds the end of a line if the name is no identifier. -/
theorem any_endsLine_moduleStem {n : Text} (h : Check.acceptsName n = true) :
    (moduleStem n).any endsLine = !Check.isIdentifier n := by
  have hlower : (moduleStem n).any endsLine = n.any endsLine := by
    rw [moduleStem, Check.lower_of_ascii (Check.toNat_lt_of_acceptsName h), Bool.eq_iff_iff,
      List.any_eq_true, List.any_eq_true]
    constructor
    · rintro ⟨c, hc, he⟩
      obtain ⟨a, ha, rfl⟩ := List.mem_map.1 hc
      exact ⟨a, ha, endsLine_toLower (Check.toNat_lt_of_acceptsName h a ha) ▸ he⟩
    · rintro ⟨c, hc, he⟩
      refine ⟨c.toLower, List.mem_map_of_mem hc, ?_⟩
      rw [endsLine_toLower (Check.toNat_lt_of_acceptsName h c hc), he]
  have hid : Check.isIdentifier n = true → n.any endsLine = false := fun hn =>
    List.any_eq_false.2 fun c hc => by
      rw [endsLine_of_continuesIdentifier
        (List.all_eq_true.1 (Check.all_continuesIdentifier hn) c hc)]
      exact Bool.false_ne_true
  rw [hlower]
  cases hn : Check.isIdentifier n with
  | true => exact hid hn
  | false =>
    rcases Check.acceptsName_iff.1 h with h | ⟨t, rfl, -⟩
    · exact absurd h (by simp [hn])
    · rw [List.any_append]
      exact Bool.or_true _

theorem all_indexTargets
    (h : (Check.reportOf (Check.findings d e.config)).isValid = true) (b : Bool) :
    ((indexTargets d.models b).all fun t => !t.any endsLine) = true ↔
      ∀ m ∈ d.models, Check.isIdentifier m.name = true := by
  have hstem : ∀ m ∈ d.models,
      (!(("./" : Text) ++ moduleStem m.name).any endsLine) = Check.isIdentifier m.name := by
    intro m hm
    rw [List.any_append, any_endsLine_moduleStem ((Check.nodup_of_isValid h).2 m hm).1]
    show (!!Check.isIdentifier m.name) = _
    rw [Bool.not_not]
  unfold indexTargets
  dsimp only
  rw [List.all_append, Bool.and_eq_true, and_iff_left (by cases b <;> rfl), List.all_map,
    List.all_eq_true]
  exact forall₂_congr fun m hm => by rw [← hstem m hm]; rfl

/-! ## Defaults that cannot be written -/

/-- Every default of a scalar field can be written. -/
def IsWritable (d : DataModel) : Prop :=
  ∀ m ∈ d.models, ∀ f ∈ m.scalarFields, f.isUnwritable = false

theorem brokenJournal?_eq_none_iff (e : Emitter) (ms : List Model) :
    e.brokenJournal? ms = none ↔ ∀ m ∈ ms, ∀ f ∈ m.scalarFields, f.isUnwritable = false := by
  induction ms with
  | nil => simp [brokenJournal?]
  | cons m ms ih =>
    have hany : m.scalarFields.any Field.isUnwritable = false ↔
        ∀ f ∈ m.scalarFields, f.isUnwritable = false := by simp
    rw [List.forall_mem_cons, ← ih, ← hany, brokenJournal?]
    cases m.scalarFields.any Field.isUnwritable <;> simp

/-- Files come out if every default can be written, and then they are those that are generated. -/
theorem emission_eq_ok_iff {x : Files × Journal} :
    e.emission d = .ok x ↔ IsWritable d ∧ x = (e.generate d, e.journal d) := by
  unfold emission IsWritable
  rw [← brokenJournal?_eq_none_iff e]
  cases e.brokenJournal? d.models <;> simp [eq_comm]

/-- **What a valid run generates.**  Files come out of it if every default can be written.  They are
there in order and none takes the place of another one; the index is read as it is meant if the
names of the models are identifiers. -/
theorem generate_of_isValid
    (h : (Check.reportOf (Check.findings d e.config)).isValid = true) :
    (∀ x, e.emission d = .ok x ↔ IsWritable d ∧ x = (e.generate d, e.journal d)) ∧
      keys (e.generate d) = e.fileNames d ∧ (e.fileNames d).Nodup ∧
      (∀ m ∈ d.models, get? (moduleFileName m.name) (e.generate d) = some (e.modelModule m)) ∧
      (IsIndexed (e.generate d) ↔ ∀ m ∈ d.models, Check.isIdentifier m.name = true) := by
  have hkeys := keys_allModules e d
  have hnodup := nodup_fileNames h
  rw [generate_eq_allModules h]
  refine ⟨fun _ => ?_, hkeys, hnodup, fun m hm => ?_, ?_⟩
  · rw [emission_eq_ok_iff, generate_eq_allModules h]
  · refine get?_eq_some_of_mem (hkeys ▸ hnodup) ?_
    exact List.mem_cons_of_mem _ (List.mem_append_right _ (List.mem_map_of_mem hm))
  · have hget : get? ("index.ts" : Text) (e.allModules d)
        = some (exportLines (indexTargets d.models (e.emitsEnums d))) := by
      rw [← indexModule_eq]
      rfl
    have hread := exports?_exportLines (indexTargets d.models (e.emitsEnums d))
    rw [← all_indexTargets h (e.emitsEnums d)]
    constructor
    · rintro ⟨index, ts, hi, ht, -⟩
      cases Option.some.inj (hget.symm.trans hi)
      by_contra hn
      rw [if_neg hn] at hread
      exact absurd (hread.symm.trans ht) (by simp)
    · intro hall
      rw [if_pos hall] at hread
      exact ⟨_, _, hget, hread, hkeys ▸ perm_indexTargets e d⟩

/-- Two models and an enumeration that stands on its own. -/
theorem generate_of_isValid_blog :
    let e : Emitter := ⟨{ useStandaloneEnums := true }, .empty, "@prisma/client", none⟩
    let d : DataModel :=
      { models := [{ name := "User" }, { name := "Post" }], enums := [⟨"Role", ["ADMIN"]⟩] }
    (Check.reportOf (Check.findings d e.config)).isValid = true ∧
      e.emission d = .ok (e.generate d, e.journal d) ∧
      keys (e.generate d) = ["index.ts", "enums.ts", "user.ts", "post.ts"] ∧
      IsIndexed (e.generate d) := by
  intro e d
  have h : (Check.reportOf (Check.findings d e.config)).isValid = true := by decide +kernel
  obtain ⟨hemission, hkeys, -, -, hindex⟩ := generate_of_isValid h
  have hwritable : IsWritable d := by simp [IsWritable, d, Model.scalarFields]
  have hnames : e.fileNames d = ["index.ts", "enums.ts", "user.ts", "post.ts"] := by
    decide +kernel
  exact ⟨h, (hemission _).2 ⟨hwritable, rfl⟩, hkeys.trans hnames, hindex.2 (by decide)⟩

/-- A line feed behind the name of a model passes the check, and ends the literal in the index. -/
theorem not_isIndexed_lineFeed :
    let e : Emitter := ⟨{}, .empty, "@prisma/client", none⟩
    let d : DataModel := { models := [{ name := "User\n" }] }
    (Check.reportOf (Check.findings d e.config)).isValid = true ∧
      ¬ IsIndexed (e.generate d) := by
  intro e d
  have h : (get? ("index.ts" : Text) (e.generate d)).bind exports? = none := by decide +kernel
  refine ⟨by decide +kernel, ?_⟩
  rintro ⟨index, ts, hi, ht, -⟩
  rw [hi, Option.bind_some, ht] at h
  exact absurd h (by simp)

end ValidatorGen.Emitter
