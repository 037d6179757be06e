import ValidatorGen.Proofs.Export.Entries
import ValidatorGen.Proofs.Export.Folder

/-!
# Exporting again

An export that is done again does what it would have done alone, and the disk is as one export on the
later occasion would have left it.  One thing is different: of a folder that cannot be made for the
length of a name in its path, the first export makes what it can and refuses the path up to that name,
and the second one refuses the whole path.

* `kindAt?_withEntries_congr` — disks that differ in the entries of a folder;
* `Repeats` — what two exports have in common;
* `toFolder_again` — the main theorem;
* `not_toFolder_again` — the errors need not be the same.
-/

namespace ValidatorGen

open Disk (HoldsFolder IsWord Stops Made)

/-! ## Disks that differ in a folder -/

/-- Entries that are the same to those who look them up make the same disk. -/
theorem Disk.kindAt?_withEntries_congr {d : Disk} {q s : List Text} {es es' es₀ : List (Text × Node)}
    (hq : d.root.get? q = some (.folder es₀))
    (h : ∀ a t, s = q ++ a :: t →
      (Ordered.get? a es).bind (·.kindAt? t) = (Ordered.get? a es').bind (·.kindAt? t)) :
    (d.withEntries q es).root.kindAt? s = (d.withEntries q es').root.kindAt? s := by
  by_cases hqs : q <+: s
  · obtain ⟨t, rfl⟩ := hqs
    rw [Node.kindAt?_append, Node.kindAt?_append, Disk.get?_withEntries hq,
      Disk.get?_withEntries hq, Option.bind_some, Option.bind_some]
    cases t with
    | nil => rfl
    | cons a t =>
      rw [Node.kindAt?_cons_folder, Node.kindAt?_cons_folder]
      exact h a t rfl
  · unfold Disk.withEntries
    rw [Node.kindAt?_set hq hqs, Node.kindAt?_set hq hqs]

namespace Export

variable {policy : Policy} {o o' : Occasion} {folder : Path} {es : List (Text × Node)}
  {fs ms ms' files : List (Text × Text)} {a : Text} {there : Text → Bool}

/-! ## Entries but for the manifest -/

/-- A listing is the manifest or nothing. -/
theorem fst_of_mem_listing {b : Account} {m : Text × Text}
    (h : m ∈ (listing policy o folder there b).1) : m.1 = manifestFile := by
  unfold listing at h
  split_ifs at h
  · cases h
  · split at h
    · rw [List.mem_singleton.1 h]
    · cases h

/-- Other names do not depend on the manifest, nor does what lies below its own. -/
theorem bind_get?_putFiles_append (hm : ∀ m ∈ ms, m.1 = manifestFile)
    (hm' : ∀ m ∈ ms', m.1 = manifestFile) {t : List Text} (ha : a ≠ manifestFile ∨ t ≠ []) :
    (Ordered.get? a (putFiles es (fs ++ ms))).bind (·.kindAt? t)
      = (Ordered.get? a (putFiles es (fs ++ ms'))).bind (·.kindAt? t) := by
  have happend : ∀ ns, putFiles es (fs ++ ns) = putFiles (putFiles es fs) ns := fun ns =>
    List.foldl_append
  rw [happend, happend]
  by_cases hname : a = manifestFile
  · subst hname
    obtain ⟨b, t, rfl⟩ := List.exists_cons_of_ne_nil (ha.resolve_left (not_not_intro rfl))
    cases hfolder : HoldsFolder (putFiles es fs) manifestFile with
    | true => rw [get?_putFiles_of_holdsFolder hfolder, get?_putFiles_of_holdsFolder hfolder]
    | false =>
      rw [Disk.kindAt?_of_not_holdsFolder (by rw [holdsFolder_putFiles, hfolder]),
        Disk.kindAt?_of_not_holdsFolder (by rw [holdsFolder_putFiles, hfolder])]
  · have hother : ∀ ns : List (Text × Text), (∀ m ∈ ns, m.1 = manifestFile) →
        ∀ m ∈ ns, FileName.stored m.1 ≠ a := by
      intro ns hns m hmem heq
      rw [hns m hmem, stored_manifestFile] at heq
      exact hname heq.symm
    rw [get?_putFiles_of_not_mem (hother ms hm), get?_putFiles_of_not_mem (hother ms' hm')]

/-! ## Two exports -/

/-- What an export says of a folder that cannot be made for the length of a name. -/
def tooLong (p : Path) : Text := complaint "Fatal export error" (.of .nameTooLong p.text)

/-- What an export on a disk, a second one after it, and one on the occasion of the second alone have
in common. -/
structure Repeats (d : Disk) (o o' : Occasion) (output folder : Path) (first second once : Progress) :
    Prop where
  /-- The second one goes to the same folder, -/
  resolve : first.disk.resolve output = .ok folder
  /-- and leaves the disk that it would have left alone, -/
  disk : ∀ s, second.disk.root.kindAt? s = once.disk.root.kindAt? s
  cwd : second.disk.cwd = once.disk.cwd
  /-- which the first one has left already but for the time in the manifest. -/
  already : ∀ s, s ≠ (folder.child manifestFile).place ∨ o'.timestamp = o.timestamp →
    second.disk.root.kindAt? s = first.disk.root.kindAt? s
  records : second.records = first.records
  totals : (second.manifest o' folder).SameTotals (first.manifest o folder)
  count : second.errors.length = first.errors.length
  success : second.success = first.success
  ended : second.fault?.isSome = first.fault?.isSome
  fault : second.fault? = once.fault?
  /-- The errors are those of the second one alone, and differ from those of the first one in the word
  of the temporary files only, -/
  errors : (¬ ∃ above long below, below ≠ [] ∧ Stops d folder above long below) →
    second.errors = once.errors ∧ (o'.word = o.word → second.errors = first.errors)
  /-- unless the first one has made folders in front of a name that is too long. -/
  stops : ∀ above long below, Stops d folder above long below →
    first.errors = [tooLong (above.child long)] ∧ second.errors = [tooLong folder]

variable {d base : Disk} {output : Path} {es₀ : List (Text × Node)} {clean : Bool}

theorem success_of_length {p q : Progress} (h : p.errors.length = q.errors.length) :
    p.success = q.success := by
  have hiff : p.errors = [] ↔ q.errors = [] := by
    rw [← List.length_eq_zero_iff, ← List.length_eq_zero_iff, h]
  unfold Progress.success
  rw [Bool.eq_iff_iff, List.isEmpty_iff, List.isEmpty_iff]
  exact hiff

theorem resolve_of_cwd {e : Disk} (h : e.cwd = d.cwd) (output : Path) :
    e.resolve output = d.resolve output := by
  unfold Disk.resolve
  rw [h]

/-- Where the folder can be made, the accounts tell all of it. -/
theorem repeats_of_ends {first second once : Progress} {b b' : Account}
    {l l' : List (Text × Text) × Option DiskFault}
    (hbase : base.root.get? folder.place = some (.folder es₀))
    (hfirst : Ends base folder (kept clean es₀) b l first)
    (honce : Ends base folder (kept clean es₀) b' l' once)
    (hsecond : Ends first.disk folder (kept clean (putFiles (kept clean es₀) (b.written ++ l.1)))
      b' l' second)
    (hb : AccountsAlike b b') (hword : o'.word = o.word → b' = b)
    (hnames : l'.1.map Prod.fst = l.1.map Prod.fst)
    (htime : o'.timestamp = o.timestamp → l'.1 = l.1) (hended : l'.2.isSome = l.2.isSome)
    (hl : ∀ m ∈ l.1, m.1 = manifestFile) (hresolve : first.disk.resolve output = .ok folder)
    (hstops : ∀ above long below, ¬ Stops d folder above long below) :
    Repeats d o o' output folder first second once := by
  have hplace : first.disk.root.get? folder.place
      = some (.folder (putFiles (kept clean es₀) (b.written ++ l.1))) := by
    rw [hfirst.disk, Disk.get?_withEntries hbase]
  have hl' : ∀ m ∈ l'.1, m.1 = manifestFile := by
    intro m hm
    have hmem : m.1 ∈ l.1.map Prod.fst := hnames ▸ List.mem_map_of_mem hm
    obtain ⟨m', hm', heq⟩ := List.mem_map.1 hmem
    exact heq ▸ hl m' hm'
  -- the second export has the entries that it would have had alone
  have hdisk : ∀ s, second.disk.root.kindAt? s = once.disk.root.kindAt? s := by
    intro s
    rw [hsecond.disk, hfirst.disk, Disk.withEntries_withEntries hbase, honce.disk]
    refine Disk.kindAt?_withEntries_congr hbase fun a t _ => ?_
    have hfiles : (b'.written ++ l'.1).map Prod.fst = (b.written ++ l.1).map Prod.fst := by
      rw [List.map_append, List.map_append, hb.written, hnames]
    rw [get?_again clean es₀ hfiles]
  have hrecords : second.records = first.records := by
    rw [hsecond.records, hfirst.records, hb.written]
  have hcount : second.errors.length = first.errors.length := by
    rw [hsecond.errors, hfirst.errors, hb.errors]
  refine ⟨hresolve, hdisk, ?_, fun s hs => (hdisk s).trans ?_, hrecords, .of_files hrecords, hcount,
    success_of_length hcount, ?_, ?_, ?_, ?_⟩
  · rw [hsecond.disk, hfirst.disk, honce.disk]
    rfl
  · rw [honce.disk, hfirst.disk, hb.written]
    rcases hs with hs | htimestamp
    · refine Disk.kindAt?_withEntries_congr hbase fun a t heq => ?_
      refine bind_get?_putFiles_append hl' hl ?_
      by_contra hnot
      rw [not_or, not_not, not_not] at hnot
      obtain ⟨rfl, rfl⟩ := hnot
      rw [Path.place_child, stored_manifestFile] at hs
      exact hs heq
    · rw [htime htimestamp]
  · rw [hsecond.fault, hfirst.fault, hended]
  · rw [hsecond.fault, honce.fault]
  · intro _
    refine ⟨by rw [hsecond.errors, honce.errors], fun hsame => ?_⟩
    rw [hsecond.errors, hfirst.errors, hword hsame]
  · exact fun above long below h => absurd h (hstops above long below)

section

variable (hresolve : d.resolve output = .ok folder)
include hresolve

/-- Where the folder can be made. -/
theorem repeats_of_made (hf : Disk.Fits folder) (hens : d.ensureFolder folder = (base, .ok ()))
    (hmade : Made d base folder.place) (ho : Ordinary o) (ho' : Ordinary o')
    (hplain : ∀ f ∈ files, Path.IsPlain f.1)
    (hstops : ∀ above long below, ¬ Stops d folder above long below) :
    Repeats d o o' output folder (toFolder d policy o folder files)
      (toFolder (toFolder d policy o folder files).disk policy o' folder files)
      (toFolder d policy o' folder files) := by
  have hp := Disk.resolve_straight hresolve
  obtain ⟨es₀, hbase, -⟩ := hmade.entries
  have hfirst := toFolder_ends hp hf hbase hens hplain policy o
  have honce := toFolder_ends hp hf hbase hens hplain policy o'
  generalize toFolder d policy o folder files = first at hfirst ⊢
  have hplace := Disk.get?_withEntries hbase (putFiles (kept policy.clean es₀)
    ((account policy o.word folder (HoldsFolder (kept policy.clean es₀)) files).written
      ++ (listing policy o folder (HoldsFolder (kept policy.clean es₀))
        (account policy o.word folder (HoldsFolder (kept policy.clean es₀)) files)).1))
  rw [← hfirst.disk] at hplace
  have hsecond := toFolder_ends hp hf hplace (Disk.ensureFolder_of_folder hp hf hplace) hplain
    policy o'
  rw [holdsFolder_again] at hsecond
  have hb := account_alike hp.slashes ho.word ho'.word policy
    (HoldsFolder (kept policy.clean es₀)) files
  obtain ⟨hnames, htime, hended⟩ := listing_alike hp.slashes ho ho' policy
    (HoldsFolder (kept policy.clean es₀)) hb
  have hcwd : first.disk.cwd = d.cwd := by
    rw [hfirst.disk]
    exact hmade.cwd
  refine repeats_of_ends hbase hfirst honce hsecond hb (fun h => by rw [h]) hnames htime hended
    (fun m hm => fst_of_mem_listing hm) ?_ hstops
  rw [resolve_of_cwd hcwd, hresolve]

/-- Where the folder can be made neither the first time nor the second time. -/
theorem repeats_of_errors {f f' : DiskFault} (hens : d.ensureFolder folder = (base, .error f))
    (hens' : base.ensureFolder folder = (base, .error f')) (hcwd : base.cwd = d.cwd)
    (htrouble : f'.isTrouble = f.isTrouble) (hfault : f.isTrouble = false → f' = f)
    (hsame : (¬ ∃ above long below, below ≠ [] ∧ Stops d folder above long below) → f' = f)
    (hstops : ∀ above long below, Stops d folder above long below →
      f = .of .nameTooLong (above.child long).text ∧ f' = .of .nameTooLong folder.text) :
    Repeats d o o' output folder (toFolder d policy o folder files)
      (toFolder (toFolder d policy o folder files).disk policy o' folder files)
      (toFolder d policy o' folder files) := by
  obtain ⟨hdisk, hrecords, herrors, hended⟩ := toFolder_of_error hens policy o files
  obtain ⟨hdisk₁, -, herrors₁, hended₁⟩ := toFolder_of_error hens policy o' files
  obtain ⟨hdisk₂, hrecords₂, herrors₂, hended₂⟩ := toFolder_of_error hens' policy o' files
  rw [hdisk]
  have hlist : (toFolder base policy o' folder files).records
      = (toFolder d policy o folder files).records := by rw [hrecords₂, hrecords]
  have hcount : (toFolder base policy o' folder files).errors.length
      = (toFolder d policy o folder files).errors.length := by
    rw [herrors₂, herrors, htrouble]
    split_ifs <;> rfl
  refine ⟨?_, fun s => by rw [hdisk₂, hdisk₁], by rw [hdisk₂, hdisk₁],
    fun s _ => by rw [hdisk₂, hdisk], hlist, .of_files hlist, hcount, success_of_length hcount, ?_,
    ?_, fun hnot => ?_, fun above long below h => ?_⟩
  · rw [hdisk, resolve_of_cwd hcwd, hresolve]
  · rw [hended₂, hended, htrouble]
    split_ifs <;> rfl
  · rw [hended₂, hended₁, htrouble]
    split_ifs with h
    · rfl
    · rw [hfault (Bool.eq_false_iff.2 h)]
  · rw [herrors₂, herrors₁, herrors, hsame hnot]
    exact ⟨rfl, fun _ => rfl⟩
  · obtain ⟨rfl, rfl⟩ := hstops above long below h
    exact ⟨herrors, herrors₂⟩

/-- Where folders have been made in front of a name that is too long. -/
theorem repeats_of_stops {above : Path} {long : Text} {below : List Text}
    (hstops : Stops d folder above long below) :
    Repeats d o o' output folder (toFolder d policy o folder files)
      (toFolder (toFolder d policy o folder files).disk policy o' folder files)
      (toFolder d policy o' folder files) := by
  obtain ⟨base, hmake, hmade⟩ := hstops.exists_made
  have hens := hstops.ensureFolder hmake hmade
  refine repeats_of_errors hresolve hens (hstops.ensureFolder_again hmade) hmade.cwd rfl
    (fun h => absurd h Bool.true_eq_false.mp) (fun hnot => ?_) fun above' long' below' h => ?_
  · have hlast : below = [] := by
      by_contra hne
      exact hnot ⟨above, long, below, hne, hstops⟩
    subst hlast
    have heq : folder = above.child long := by rw [hstops.eq, Path.child, hstops.root]
    rw [heq]
  · obtain ⟨base', hmake', hmade'⟩ := h.exists_made
    have hens' := h.ensureFolder hmake' hmade'
    rw [hens] at hens'
    exact ⟨Except.error.inj (congrArg Prod.snd hens'), rfl⟩

end

/-- **Exporting again** to a folder, on any disk and however an export is done.  The second export has
the records, the totals and the success of the first one, its errors are those of an export on its
occasion alone, and it leaves the disk that such an export would have left.  Its errors are those of
the first one too, but for the word of the temporary files; only where the first one has made folders
in front of a name that is too long, either of them names another path. -/
theorem toFolder_again (d : Disk) (policy : Policy) {o o' : Occasion} (ho : Ordinary o)
    (ho' : Ordinary o') {output folder : Path} {files : List (Text × Text)}
    (hresolve : d.resolve output = .ok folder) (hfiles : PlainFiles files) :
    Repeats d o o' output folder (toFolder d policy o folder files)
      (toFolder (toFolder d policy o folder files).disk policy o' folder files)
      (toFolder d policy o' folder files) := by
  by_cases hstops : ∃ above long below, Stops d folder above long below
  · obtain ⟨above, long, below, hstops⟩ := hstops
    exact repeats_of_stops hresolve hstops
  · have hnot : ∀ above long below, ¬ Stops d folder above long below :=
      fun above long below h => hstops ⟨above, long, below, h⟩
    rcases Disk.ensureFolder_cases d (Disk.resolve_straight hresolve) with
      ⟨base, hens, hf, hmade⟩ | ⟨f, hens⟩ | h
    · exact repeats_of_made hresolve hf hens hmade ho ho' (fun _ => hfiles.isPlain) hnot
    · exact repeats_of_errors hresolve hens hens rfl rfl (fun _ => rfl) (fun _ => rfl)
        fun above long below h => absurd h (hnot above long below)
    · exact absurd h hstops

/-- A module is written over, another one has a folder in its place both times. -/
theorem toFolder_again_used :
    let o : Occasion := ⟨"2024-01-01T00:00:00", "00:00:00", 0, "abcdefgh"⟩
    let o' : Occasion := ⟨"2024-01-01T00:00:01", "00:00:01", 0, "stuvwxyz"⟩
    let policy : Policy := { clean := true }
    let folder : Path := ⟨1, ["out"]⟩
    let files : List (Text × Text) := [("a.ts", "x"), ("b.ts", "y")]
    Ordinary o ∧ Ordinary o' ∧ usedDisk.resolve folder = .ok folder ∧ PlainFiles files ∧
      Repeats usedDisk o o' folder folder (toFolder usedDisk policy o folder files)
        (toFolder (toFolder usedDisk policy o folder files).disk policy o' folder files)
        (toFolder usedDisk policy o' folder files) := by
  intro o o' policy folder files
  have ho : Ordinary o := ⟨⟨by decide, by decide +kernel⟩, by decide +kernel⟩
  have ho' : Ordinary o' := ⟨⟨by decide, by decide +kernel⟩, by decide +kernel⟩
  have hresolve : usedDisk.resolve folder = .ok folder := rfl
  have hfiles : PlainFiles files := ⟨by decide, by decide, by decide⟩
  exact ⟨ho, ho', hresolve, hfiles, toFolder_again usedDisk policy ho ho' hresolve hfiles⟩

/-- Below a folder that is missing, a name of 256 characters makes two exports on one occasion end in
different errors. -/
theorem not_toFolder_again :
    let o : Occasion := ⟨"2024-01-01T00:00:00", "00:00:00", 0, "abcdefgh"⟩
    let d : Disk := ⟨.folder [], []⟩
    let folder : Path := ⟨1, ["a", Text.repeated 256 'n', "c"]⟩
    let files : List (Text × Text) := [("index.ts", "x\n")]
    d.resolve folder = .ok folder ∧ PlainFiles files ∧
      (toFolder (toFolder d {} o folder files).disk {} o folder files).errors
        ≠ (toFolder d {} o folder files).errors := by
  intro o d folder files
  have hp : folder.IsStraight := ⟨rfl, by decide +kernel⟩
  have hresolve : d.resolve folder = .ok folder := by decide +kernel
  have hlong : Disk.IsLong folder ⟨1, ["a"]⟩ (Text.repeated 256 'n') ["c"] :=
    ⟨rfl, rfl, hp, ⟨by decide +kernel, by decide +kernel⟩, by decide +kernel, by decide +kernel⟩
  have hmissing : d.root.get? (Path.place ⟨1, ["a"]⟩) = none := by rfl
  have hfree : ¬ d.root.Blocks (Path.place ⟨1, ["a"]⟩) := by
    intro hblocks
    have hroot : d.root.Blocks [] := Node.Blocks.of_child (q := []) hblocks hmissing
    have hfolder : d.root.get? [] = some (.folder []) := rfl
    exact Node.not_blocks_of_folder hfolder hroot
  have hstops : Stops d folder ⟨1, ["a"]⟩ (Text.repeated 256 'n') ["c"] :=
    ⟨hlong, hmissing, hfree⟩
  have hrepeats : Repeats d o o folder folder (toFolder d {} o folder files)
      (toFolder (toFolder d {} o folder files).disk {} o folder files)
      (toFolder d {} o folder files) := repeats_of_stops hresolve hstops
  obtain ⟨hfirst, hsecond⟩ := hrepeats.stops _ _ _ hstops
  refine ⟨hresolve, ⟨by decide, by decide, by decide⟩, ?_⟩
  rw [hfirst, hsecond]
  decide +kernel

end Export

end ValidatorGen
