import ValidatorGen.Proofs.Export.Account

/-!
# What an export does to the disk

An export to a folder either does nothing, because a file is in the way of the folder, or it leaves
every file with its text and a record, or as it was and with an error.

* `Describes` — what the record of a file says of its text;
* `Touched` — the places where an export may change something;
* `Exported` — how it ends where the folder can be made;
* `toFolder_effect` — the main theorem.
-/

namespace ValidatorGen.Export

open Disk (HoldsFolder CanWrite WritesUnlessFolder Made)

/-! ## What is asked for and what comes of it -/

/-- Modules under plain names, which are distinct and end in `.ts`. -/
structure PlainFiles (files : List (Text × Text)) : Prop where
  slash : ∀ f ∈ files, CodePoint.char '/' ∉ f.1
  suffix : ∀ f ∈ files, moduleSuffix <:+ f.1
  nodup : (files.map Prod.fst).Nodup

theorem PlainFiles.isPlain {files : List (Text × Text)} (h : PlainFiles files) {f : Text × Text}
    (hf : f ∈ files) : Path.IsPlain f.1 := by
  have hlength : 3 ≤ f.1.length := (h.suffix f hf).length_le
  have hne : ∀ name : Text, name.length < 3 → f.1 ≠ name := by
    rintro name hname rfl
    omega
  exact ⟨h.slash f hf, hne _ (by decide), hne _ (by decide), hne _ (by decide)⟩

/-- The text of the manifest. -/
def manifestText (o : Occasion) (folder : Path) (p : Progress) : Text :=
  (p.manifest o folder).json ++ "\n"

/-- Nothing keeps a file of the export from being written but a folder in its place. -/
structure Writable (d : Disk) (clean : Bool) (o : Occasion) (folder : Path)
    (files : List (Text × Text)) : Prop where
  file : ∀ f ∈ files, WritesUnlessFolder o.word folder f.1 f.2
  manifest : WritesUnlessFolder o.word folder manifestFile
    (manifestText o folder (toFolder d { clean := clean } o folder files))

/-- A folder is in the place of a file. -/
def isFolderAt (d : Disk) (folder : Path) (name : Text) : Bool :=
  (d.root.get? (folder.child name).place).any (·.isFolder)

/-- Where an export may change something: the folders that it makes, its files, the manifest and,
when cleaning, the old modules of the folder. -/
inductive Touched (d : Disk) (clean : Bool) (folder : Path) (files : List (Text × Text)) :
    List Text → Prop
  | way {s : List Text} (h : s <+: folder.place) (hn : d.root.get? s = none) :
      Touched d clean folder files s
  | file {f : Text × Text} (h : f ∈ files) : Touched d clean folder files (folder.child f.1).place
  | manifest : Touched d clean folder files (folder.child manifestFile).place
  | stale {name : Text} {c : List UInt8} (h : clean = true) (hsuffix : moduleSuffix <:+ name)
      (hfile : d.root.get? (folder.place ++ [name]) = some (.file c)) :
      Touched d clean folder files (folder.place ++ [name])

/-- A record of a file says where it is, how many bytes its text has in UTF-8, how many lines, of
which the last one need not be ended, and what its SHA-256 checksum is. -/
structure Describes (folder : Path) (f : Text × Text) (r : FileRecord) : Prop where
  relativePath : r.relativePath = f.1
  absolutePath : r.absolutePath = (folder.child f.1).text
  sizeBytes : r.sizeBytes = (Text.Utf8.encode f.2).length
  lineCount : r.lineCount
    = f.2.count (.char '\n') + if f.2 = [] ∨ f.2.getLast? = some '\n' then 0 else 1
  sha256 : r.sha256 = Text.sha256 f.2

/-- A file that has been written. -/
structure Written (folder : Path) (f : Text × Text) (p : Progress) : Prop where
  content : p.disk.root.get? (folder.child f.1).place = some (.file (Text.Utf8.encode f.2))
  record : ∃ r ∈ p.records, Describes folder f r
  once : (p.records.map (·.relativePath)).count f.1 = 1

/-- A file that has not been written. -/
structure Failed (d : Disk) (o : Occasion) (folder : Path) (f : Text × Text) (p : Progress) :
    Prop where
  asBefore : p.disk.root.get? (folder.child f.1).place = d.root.get? (folder.child f.1).place
  once : p.errors.count (failure o.word folder f.1) = 1
  unrecorded : f.1 ∉ p.records.map (·.relativePath)

/-- How an export ends where a file is in the way of the folder. -/
structure Refused (d : Disk) (p : Progress) : Prop where
  disk : p.disk = d
  records : p.records = []
  success : p.success = false
  ended : p.fault? = none

/-- How an export ends where the folder can be made. -/
structure Exported (d : Disk) (clean : Bool) (o : Occasion) (folder : Path)
    (files : List (Text × Text)) (p : Progress) : Prop where
  ended : p.fault? = none
  each : ∀ f ∈ files, Xor (Written folder f p) (Failed d o folder f p)
  /-- The records are those of the written files, in their order. -/
  records : List.Forall₂ (Describes folder) (files.filter (!isFolderAt d folder ·.1)) p.records
  errors : p.errors
    = ((files.filter (isFolderAt d folder ·.1)).map Prod.fst).map (failure o.word folder)
  totalFiles : (p.manifest o folder).totalFiles = p.records.length
  totalBytes : (p.manifest o folder).totalBytes = (p.records.map (·.sizeBytes)).sum
  totalLines : (p.manifest o folder).totalLines = (p.records.map (·.lineCount)).sum
  manifest : isFolderAt d folder manifestFile = false →
    p.disk.root.get? (folder.child manifestFile).place
      = some (.file (Text.Utf8.encode (manifestText o folder p)))
  success : p.success = true ↔ p.errors = []
  /-- Whatever is there now and was not before, a temporary file for instance, is one of these. -/
  new : ∀ s, d.root.kindAt? s = none → p.disk.root.kindAt? s ≠ none →
    s <+: folder.place ∨ (∃ f ∈ files, s = (folder.child f.1).place) ∨
      s = (folder.child manifestFile).place
  frame : ∀ s, ¬ Touched d clean folder files s → p.disk.root.kindAt? s = d.root.kindAt? s
  cwd : p.disk.cwd = d.cwd

/-! ## From the entries of the folder to the disk -/

theorem describes_recordOf (folder : Path) (f : Text × Text) :
    Describes folder f (recordOf folder f) := by
  refine ⟨rfl, rfl, rfl, ?_, rfl⟩
  show Text.countLines f.2 = _
  unfold Text.countLines
  by_cases hempty : f.2 = []
  · simp [hempty]
  · simp [hempty]

theorem stored_manifestFile : FileName.stored manifestFile = manifestFile := by decide +kernel

theorem not_suffix_manifestFile : ¬ moduleSuffix <:+ manifestFile := by decide +kernel

/-- The manifest among the files that are written. -/
def withManifest (o : Occasion) (folder : Path) (files : List (Text × Text)) (p : Progress) :
    List (Text × Text) := files ++ [(manifestFile, manifestText o folder p)]

/-- What an export has done to the entries of the folder, which has been made before. -/
structure Done (d base : Disk) (clean : Bool) (o : Occasion) (folder : Path)
    (es : List (Text × Node)) (files : List (Text × Text)) (p : Progress) : Prop where
  free : ¬ d.root.Blocks folder.place
  made : Made d base folder.place
  before : base.root.get? folder.place = some (.folder es)
  old : base = d ∨ es = []
  disk : p.disk = base.withEntries folder.place
    (putFiles (kept clean es) (withManifest o folder files p))
  records : p.records = (files.filter (!barred (kept clean es) ·)).map (recordOf folder)
  errors : p.errors
    = ((files.filter (barred (kept clean es))).map Prod.fst).map (failure o.word folder)
  ended : p.fault? = none

section

variable {d base : Disk} {clean : Bool} {o : Occasion} {folder : Path}
  {es : List (Text × Node)} {files : List (Text × Text)} {p : Progress}

theorem not_prefix_concat (q : List Text) (a : Text) (t : List Text) : ¬ q ++ a :: t <+: q := by
  intro h
  have hlength := h.length_le
  simp only [List.length_append, List.length_cons] at hlength
  omega

section

variable (h : Done d base clean o folder es files p)
include h

/-- What was in the folder before it was made. -/
theorem Done.get?_before (a : Text) : d.root.get? (folder.place ++ [a]) = Ordered.get? a es := by
  rw [← Node.get?_entry h.before]
  rcases h.old with rfl | rfl
  · rfl
  · have hbase : base.root.get? (folder.place ++ [a]) = none := Node.get?_entry h.before a
    have hother := h.made.other _ (not_prefix_concat folder.place a [])
    rw [Node.kindAt?_eq_none.2 hbase] at hother
    rw [hbase, Node.kindAt?_eq_none.1 hother.symm]

theorem Done.get?_after (a : Text) : p.disk.root.get? (folder.place ++ [a])
    = Ordered.get? a (putFiles (kept clean es) (withManifest o folder files p)) := by
  rw [h.disk]
  exact Node.get?_entry (Disk.get?_withEntries h.before _) a

theorem Done.holdsFolder (name : Text) :
    HoldsFolder es (FileName.stored name) = isFolderAt d folder name := by
  rw [isFolderAt, Path.place_child, h.get?_before, HoldsFolder]

variable (hnames : ∀ es, d.root.get? folder.place = some (.folder es) → (Ordered.keys es).Nodup)
include hnames

theorem Done.nodup : (Ordered.keys es).Nodup := by
  rcases h.old with rfl | rfl
  · exact hnames _ h.before
  · exact List.nodup_nil

theorem Done.barred_eq (f : Text × Text) : barred (kept clean es) f = isFolderAt d folder f.1 := by
  rw [barred, holdsFolder_kept (h.nodup hnames), h.holdsFolder]

theorem Done.records_eq :
    p.records = (files.filter (!isFolderAt d folder ·.1)).map (recordOf folder) := by
  rw [h.records]
  simp only [h.barred_eq hnames]

theorem Done.errors_eq : p.errors
    = ((files.filter (isFolderAt d folder ·.1)).map Prod.fst).map (failure o.word folder) := by
  have hbarred : barred (kept clean es) = (isFolderAt d folder ·.1) := funext (h.barred_eq hnames)
  rw [h.errors, hbarred]

/-- What can have become of an entry: nothing, or it was no folder, is none now, and may change. -/
theorem Done.entry_cases (a : Text) :
    Ordered.get? a (putFiles (kept clean es) (withManifest o folder files p))
        = Ordered.get? a es ∨
      HoldsFolder es a = false ∧
        HoldsFolder (putFiles (kept clean es) (withManifest o folder files p)) a = false ∧
        Touched d clean folder files (folder.place ++ [a]) := by
  have hsame : HoldsFolder (putFiles (kept clean es) (withManifest o folder files p)) a
      = HoldsFolder es a := by
    rw [holdsFolder_putFiles, holdsFolder_kept (h.nodup hnames)]
  have hkept := get?_kept clean (h.nodup hnames) a
  cases hfolder : HoldsFolder es a with
  | true =>
    rw [get?_putFiles_of_holdsFolder (by rw [holdsFolder_kept (h.nodup hnames), hfolder])]
    rcases hkept with hkept | ⟨-, -, c, hc, -⟩
    · exact .inl hkept
    · rw [HoldsFolder, hc] at hfolder
      cases hfolder
  | false =>
    by_cases hf : ∃ f ∈ withManifest o folder files p, FileName.stored f.1 = a
    · -- the entry has the name of a file
      obtain ⟨f, hf, rfl⟩ := hf
      refine .inr ⟨rfl, hsame.trans hfolder, ?_⟩
      rw [← Path.place_child]
      rcases List.mem_append.1 hf with hf | hf
      · exact .file hf
      · rw [List.mem_singleton.1 hf]
        exact .manifest
    · have hafter : Ordered.get? a (putFiles (kept clean es) (withManifest o folder files p))
          = Ordered.get? a (kept clean es) :=
        get?_putFiles_of_not_mem fun f hm heq => hf ⟨f, hm, heq⟩
      rcases hkept with hkept | ⟨-, hclean, c, hc, hstale⟩
      · exact .inl (hafter.trans hkept)
      · -- the entry has been removed
        refine .inr ⟨rfl, hsame.trans hfolder, ?_⟩
        have hfile : d.root.get? (folder.place ++ [a]) = some (.file c) := by
          rw [h.get?_before, hc]
        simp only [isStale, Bool.or_eq_true, decide_eq_true_eq] at hstale
        rcases hstale with hstale | rfl
        · exact .stale hclean (hstale ▸ Path.suffixOf_suffix a) hfile
        · rw [← stored_manifestFile, ← Path.place_child]
          exact .manifest

/-! ### The frame -/

/-- A place in the folder is as before, unless it is touched. -/
theorem Done.frame_below {a : Text} {t : List Text}
    (hs : ¬ Touched d clean folder files (folder.place ++ a :: t)) :
    p.disk.root.kindAt? (folder.place ++ a :: t) = d.root.kindAt? (folder.place ++ a :: t) := by
  have hbefore := h.made.other _ (not_prefix_concat folder.place a t)
  rw [← hbefore, Node.kindAt?_append, Node.kindAt?_append, h.before, h.disk,
    Disk.get?_withEntries h.before, Option.bind_some, Option.bind_some, Node.kindAt?_cons_folder,
    Node.kindAt?_cons_folder]
  rcases h.entry_cases hnames a with hsame | ⟨hfolder, hfolder', htouched⟩
  · rw [hsame]
  · cases t with
    | nil => exact absurd htouched hs
    | cons b t =>
      rw [Disk.kindAt?_of_not_holdsFolder hfolder', Disk.kindAt?_of_not_holdsFolder hfolder]

omit hnames in
/-- What was on the way to the folder is a folder before and after. -/
theorem Done.frame_way {s : List Text} (hs : s <+: folder.place)
    (htouched : ¬ Touched d clean folder files s) :
    p.disk.root.kindAt? s = d.root.kindAt? s := by
  rw [h.disk, Node.kindAt?_of_isPrefix (Disk.get?_withEntries h.before _) hs]
  cases hn : d.root.get? s with
  | none => exact absurd (.way hs hn) htouched
  | some m =>
    cases m with
    | folder es' => exact (Node.kindAt?_eq_folder.2 ⟨es', hn⟩).symm
    | file c => exact absurd ⟨s, c, hs, Node.kindAt?_eq_file.2 hn⟩ h.free

/-- **The frame.** -/
theorem Done.frame (s : List Text) (hs : ¬ Touched d clean folder files s) :
    p.disk.root.kindAt? s = d.root.kindAt? s := by
  by_cases hway : s <+: folder.place
  · exact h.frame_way hway hs
  · by_cases hbelow : folder.place <+: s
    · obtain ⟨t, rfl⟩ := hbelow
      cases t with
      | nil => exact absurd (by simp) hway
      | cons a t => exact h.frame_below hnames hs
    · rw [h.disk, ← h.made.other s hway]
      exact Node.kindAt?_set h.before hbelow _

/-- What is new is in the way, a file or the manifest. -/
theorem Done.new (s : List Text) (hbefore : d.root.kindAt? s = none)
    (hafter : p.disk.root.kindAt? s ≠ none) :
    s <+: folder.place ∨ (∃ f ∈ files, s = (folder.child f.1).place) ∨
      s = (folder.child manifestFile).place := by
  by_contra hnot
  rw [not_or, not_or] at hnot
  refine hafter ((h.frame hnames s fun htouched => ?_).trans hbefore)
  cases htouched with
  | way hs hn => exact hnot.1 hs
  | file hf => exact hnot.2.1 ⟨_, hf, rfl⟩
  | manifest => exact hnot.2.2 rfl
  | stale hclean hsuffix hfile =>
    rw [Node.kindAt?_eq_none.1 hbefore] at hfile
    cases hfile

/-! ### Each file -/

omit h hnames in
theorem nodup_withManifest (hfiles : PlainFiles files) :
    ((withManifest o folder files p).map Prod.fst).Nodup := by
  unfold withManifest
  rw [List.map_append]
  refine List.nodup_append.2 ⟨hfiles.nodup, List.nodup_singleton _, fun a ha b hb hab => ?_⟩
  obtain ⟨f, hf, rfl⟩ := List.mem_map.1 ha
  have hname : f.1 = manifestFile := hab.trans (List.mem_singleton.1 hb)
  exact not_suffix_manifestFile (hname ▸ hfiles.suffix f hf)

variable (hwhole : ∀ r ∈ p.records, r.relativePath.hasHalf = false)
include hwhole

omit hnames in
/-- A written file is listed under its own name. -/
theorem Done.stored_eq {f : Text × Text} (hf : f ∈ withManifest o folder files p)
    (hbarred : barred (kept clean es) f = false) : FileName.stored f.1 = f.1 := by
  rcases List.mem_append.1 hf with hf | hf
  · have hrecord : recordOf folder f ∈ p.records := by
      rw [h.records]
      exact List.mem_map_of_mem (List.mem_filter.2 ⟨hf, by simp [hbarred]⟩)
    exact FileName.stored_of_not_hasHalf (hwhole _ hrecord)
  · rw [List.mem_singleton.1 hf]
    exact stored_manifestFile

/-- A file or the manifest, where no folder is in its place. -/
theorem Done.get?_file (hfiles : PlainFiles files) {f : Text × Text}
    (hf : f ∈ withManifest o folder files p) (hfolder : isFolderAt d folder f.1 = false) :
    p.disk.root.get? (folder.child f.1).place = some (.file (Text.Utf8.encode f.2)) := by
  have hbarred : barred (kept clean es) f = false := by rw [h.barred_eq hnames, hfolder]
  rw [Path.place_child, h.get?_after]
  refine get?_putFiles hf hbarred fun g hg heq => ?_
  have hbarred' : barred (kept clean es) g = false := by rw [barred, heq, ← barred, hbarred]
  rw [h.stored_eq hwhole hf hbarred, h.stored_eq hwhole hg hbarred'] at heq
  exact List.inj_on_of_nodup_map (nodup_withManifest hfiles) hg hf heq

theorem Done.written (hfiles : PlainFiles files) {f : Text × Text} (hf : f ∈ files)
    (hfolder : isFolderAt d folder f.1 = false) : Written folder f p := by
  have hmem : f ∈ files.filter (!isFolderAt d folder ·.1) :=
    List.mem_filter.2 ⟨hf, by rw [hfolder]; rfl⟩
  have hpaths : p.records.map (·.relativePath)
      = (files.filter (!isFolderAt d folder ·.1)).map Prod.fst := by
    rw [h.records_eq hnames, List.map_map]
    rfl
  refine ⟨h.get?_file hnames hwhole hfiles (List.mem_append_left _ hf) hfolder, ?_, ?_⟩
  · refine ⟨recordOf folder f, ?_, describes_recordOf folder f⟩
    rw [h.records_eq hnames]
    exact List.mem_map_of_mem hmem
  · rw [hpaths]
    exact List.count_eq_one_of_mem (hfiles.nodup.sublist (List.filter_sublist.map _))
      (List.mem_map_of_mem hmem)

omit hwhole in
theorem Done.failed (hp : folder.IsStraight) (hfiles : PlainFiles files) {f : Text × Text}
    (hf : f ∈ files) (hfolder : isFolderAt d folder f.1 = true) : Failed d o folder f p := by
  have hholds : HoldsFolder es (FileName.stored f.1) = true := by rw [h.holdsFolder, hfolder]
  refine ⟨?_, ?_, ?_⟩
  · rw [Path.place_child, h.get?_before]
    rw [h.get?_after, get?_putFiles_of_holdsFolder
      (by rw [holdsFolder_kept (h.nodup hnames), hholds])]
    rcases get?_kept clean (h.nodup hnames) (FileName.stored f.1) with
      hsame | ⟨-, -, c, hc, -⟩
    · exact hsame
    · rw [HoldsFolder, hc] at hholds
      cases hholds
  · have hnodup : (((files.filter (isFolderAt d folder ·.1)).map Prod.fst).map
        (failure o.word folder)).Nodup :=
      (hfiles.nodup.sublist (List.filter_sublist.map _)).map (failure_injective hp o.word)
    rw [h.errors_eq hnames]
    exact List.count_eq_one_of_mem hnodup
      (List.mem_map_of_mem (List.mem_map_of_mem (List.mem_filter.2 ⟨hf, hfolder⟩)))
  · rw [h.records_eq hnames, List.map_map]
    intro hm
    obtain ⟨g, hg, hname⟩ := List.mem_map.1 hm
    have hname : g.1 = f.1 := hname
    have hfree := (List.mem_filter.1 hg).2
    rw [hname, hfolder] at hfree
    cases hfree

theorem Done.exported (hp : folder.IsStraight) (hfiles : PlainFiles files) :
    Exported d clean o folder files p where
  ended := h.ended
  each f hf := by
    cases hfolder : isFolderAt d folder f.1 with
    | false =>
      have hwritten := h.written hnames hwhole hfiles hf hfolder
      refine .inl ⟨hwritten, fun hfailed => ?_⟩
      exact hfailed.unrecorded (List.count_pos_iff.1 (by rw [hwritten.once]; decide))
    | true =>
      have hfailed := h.failed hnames hp hfiles hf hfolder
      refine .inr ⟨hfailed, fun hwritten => ?_⟩
      exact hfailed.unrecorded (List.count_pos_iff.1 (by rw [hwritten.once]; decide))
  records := by
    rw [h.records_eq hnames, List.forall₂_map_right_iff]
    exact List.forall₂_same.2 fun f _ => describes_recordOf folder f
  errors := h.errors_eq hnames
  totalFiles := rfl
  totalBytes := Manifest.totalBytes_eq _
  totalLines := Manifest.totalLines_eq _
  manifest hfolder := h.get?_file hnames hwhole hfiles
    (List.mem_append_right _ (List.mem_singleton_self _)) hfolder
  success := List.isEmpty_iff
  new := h.new hnames
  frame := h.frame hnames
  cwd := by
    rw [h.disk]
    exact h.made.cwd

end

/-! ## The whole export -/

/-- A text that can be written holds no half of a surrogate pair. -/
theorem hasHalf_of_canWrite {word name text : Text} (h : CanWrite word folder name text) :
    text.hasHalf = false := by
  rw [Text.hasHalf_eq_false_iff]
  intro c hc
  have hgood := FileName.halvesFrom?_eq_none_iff.1 h.whole c hc
  exact Bool.eq_false_iff.2 fun hhalf => Bool.false_ne_true (hgood hhalf)

/-- The names of the files appear in the manifest. -/
theorem hasHalf_records (h : CanWrite o.word folder manifestFile (manifestText o folder p)) :
    ∀ r ∈ p.records, r.relativePath.hasHalf = false := by
  intro r hr
  have hjson := hasHalf_of_canWrite h
  rw [manifestText, Text.hasHalf_append, Manifest.hasHalf_json] at hjson
  simp only [Bool.or_eq_false_iff, List.any_eq_false] at hjson
  have hnames := hjson.1.2 r hr
  simp only [Bool.or_eq_true, not_or, Bool.not_eq_true] at hnames
  exact hnames.1

theorem refused (hp : folder.IsStraight) (hf : Disk.Fits folder)
    (hblocked : d.root.Blocks folder.place) :
    Refused d (toFolder d { clean := clean } o folder files) := by
  obtain ⟨f, htrouble, hens⟩ := (Disk.ensures d folder hp hf).blocked hblocked
  obtain ⟨hdisk, hrecords, herrors, hended⟩ := toFolder_of_error hens { clean := clean } o files
  rw [if_pos htrouble] at herrors hended
  refine ⟨hdisk, hrecords, ?_, hended⟩
  unfold Progress.success
  rw [herrors]
  rfl

/-- A file that is barred leaves no trace. -/
theorem putFiles_filter (es : List (Text × Node)) (fs : List (Text × Text)) :
    putFiles es (fs.filter (!barred es ·)) = putFiles es fs := by
  induction fs using List.reverseRecOn with
  | nil => rfl
  | append_singleton fs f ih =>
    rw [List.filter_append, putFiles_concat, ← ih]
    cases hbarred : barred es f with
    | true =>
      have hnone : [f].filter (!barred es ·) = [] := by simp [hbarred]
      rw [hnone, List.append_nil, putFile, barred_putFiles, if_pos hbarred]
    | false =>
      have hone : [f].filter (!barred es ·) = [f] := by simp [hbarred]
      rw [hone, putFiles_concat]

/-- Where no file is in the way, the export goes through all its steps. -/
theorem exists_done (hp : folder.IsStraight) (hfiles : PlainFiles files)
    (hcan : ∀ f ∈ files, CanWrite o.word folder f.1 f.2)
    (hmanifest : CanWrite o.word folder manifestFile
      (manifestText o folder (toFolder d { clean := clean } o folder files)))
    (hfree : ¬ d.root.Blocks folder.place) :
    ∃ base es, Done d base clean o folder es files
      (toFolder d { clean := clean } o folder files) := by
  have hf : Disk.Fits folder := hmanifest.fits.of_child hp.slashes
  obtain ⟨base, hens, hmade⟩ := (Disk.ensures d folder hp hf).free hfree
  obtain ⟨es, hbase, hold⟩ := hmade.entries
  have hends := toFolder_ends hp hf hbase hens (fun _ => hfiles.isPlain) { clean := clean } o
  generalize toFolder d { clean := clean } o folder files = p at hends hmanifest ⊢
  rw [account_of_canWrite clean hcan] at hends
  have htext : manifestText o folder p = listingText o folder
      { written := files.filter (!barred (kept clean es) ·)
        errors := ((files.filter (barred (kept clean es))).map Prod.fst).map
          (failure o.word folder) } := by
    unfold manifestText Progress.manifest
    rw [hends.records]
    rfl
  rw [htext] at hmanifest
  rw [listing_of_canWrite clean rfl hmanifest, ← htext] at hends
  refine ⟨base, es, hfree, hmade, hbase, hold, ?_, hends.records, hends.errors, hends.fault⟩
  have hwritten := putFiles_filter (kept clean es) (withManifest o folder files p)
  rw [withManifest, List.filter_append] at hwritten
  rw [hends.disk, withManifest, ← hwritten]

end

/-- **What an export does**, to a folder with no name in it twice.  If a file is in the way of the
folder, nothing happens.  Else each file is there with a record or as it was with an error, and
nothing else has changed but the manifest and what cleaning takes away. -/
theorem toFolder_effect (d : Disk) (clean : Bool) (o : Occasion) {output folder : Path}
    {files : List (Text × Text)} (hfolder : d.resolve output = .ok folder)
    (hnames : ∀ es, d.root.get? folder.place = some (.folder es) → (Ordered.keys es).Nodup)
    (hfiles : PlainFiles files) (hwritable : Writable d clean o folder files) :
    (d.root.Blocks folder.place →
        Refused d (toFolder d { clean := clean } o folder files)) ∧
      (¬ d.root.Blocks folder.place →
        Exported d clean o folder files (toFolder d { clean := clean } o folder files)) := by
  have hp := Disk.resolve_straight hfolder
  have hmanifest := (Disk.writesUnlessFolder_iff hp (by decide)).1 hwritable.manifest
  refine ⟨fun hblocked => refused hp (hmanifest.fits.of_child hp.slashes) hblocked, fun hfree => ?_⟩
  have hcan : ∀ f ∈ files, CanWrite o.word folder f.1 f.2 := fun f hf =>
    (Disk.writesUnlessFolder_iff hp (hfiles.isPlain hf).up).1 (hwritable.file f hf)
  obtain ⟨base, es, hdone⟩ := exists_done hp hfiles hcan hmanifest hfree
  exact hdone.exported hnames (hasHalf_records hmanifest) hp hfiles

/-- A folder of an earlier export, with a folder in the place of a module. -/
def usedDisk : Disk :=
  ⟨.folder [("out", .folder [("a.ts", .folder []), ("old.ts", .file [120])])], []⟩

/-- An old module goes, one of two files is written, and the other one has a folder in its place. -/
theorem toFolder_effect_used :
    let o : Occasion := ⟨"2024-01-01T00:00:00", "00:00:00", 0, "abcdefgh"⟩
    let files : List (Text × Text) := [("a.ts", "x"), ("b.ts", "y")]
    let folder : Path := ⟨1, ["out"]⟩
    PlainFiles files ∧ Writable usedDisk true o folder files ∧
      Exported usedDisk true o folder files
        (toFolder usedDisk { clean := true } o folder files) := by
  intro o files folder
  have hp : folder.IsStraight := ⟨rfl, by decide⟩
  have hout : usedDisk.root.get? folder.place
      = some (.folder [("a.ts", .folder []), ("old.ts", .file [120])]) := rfl
  have hnames : ∀ es, usedDisk.root.get? folder.place = some (.folder es) →
      (Ordered.keys es).Nodup := by
    intro es hes
    cases hout.symm.trans hes
    decide
  have hfiles : PlainFiles files := ⟨by decide, by decide, by decide⟩
  have hwritable : Writable usedDisk true o folder files := by
    constructor
    · intro f hf
      refine (Disk.writesUnlessFolder_iff hp (hfiles.isPlain hf).up).2 ?_
      simp only [files, List.mem_cons, List.not_mem_nil, or_false] at hf
      rcases hf with rfl | rfl
      all_goals exact ⟨⟨by decide +kernel, by decide +kernel, by decide +kernel⟩, by decide +kernel⟩
    · refine (Disk.writesUnlessFolder_iff hp (by decide)).2 ?_
      exact ⟨⟨by decide +kernel, by decide +kernel, by decide +kernel⟩, by decide +kernel⟩
  have hresolve : usedDisk.resolve folder = .ok folder := rfl
  exact ⟨hfiles, hwritable, (toFolder_effect usedDisk true o hresolve hnames hfiles hwritable).2
    (Node.not_blocks_of_folder hout)⟩

end ValidatorGen.Export
