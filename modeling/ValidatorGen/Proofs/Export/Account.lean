import ValidatorGen.Proofs.Disk.Outcome
import ValidatorGen.Proofs.Export.Steps

/-!
# The account of an export

Which files an export writes and what it says of the others is a matter of the files, and of the names
under which there are folders.  An account is told from these alone.

* `account`, `listing` — the files that are written with the errors, and the manifest;
* `Follows`, `Ends` — an export has come as far as its account, and has ended as it says;
* `writeFile_follows`, `writeFiles_follows` — one file, and all of them;
* `toFolder_ends`, `toFolder_of_error` — every export does, or its folder cannot be made;
* `account_of_canWrite`, `listing_of_canWrite` — the account where only folders are in the way;
* `account_alike`, `listing_alike` — the occasion shows in words and times only.
-/

namespace ValidatorGen.Export

open Disk (HoldsFolder CanWrite IsWord outcome Alike outcome_alike)

/-! ## Accounts -/

/-- What an export has written, what it has said, and what has ended it early. -/
structure Account where
  written : List (Text × Text) := []
  errors : List Text := []
  fault? : Option DiskFault := none

/-- What an export says of a fault. -/
def complaint (what : Text) (f : DiskFault) : Text := what ++ ": " ++ f.className ++ ": " ++ f.message

/-- What an account says after one more file. -/
def Account.add (policy : Policy) (word : Text) (folder : Path) (there : Text → Bool) (a : Account)
    (f : Text × Text) : Account :=
  if a.fault?.isSome then a
  else match outcome word policy.atomic folder f.1 f.2 (there (FileName.stored f.1)) with
    | .ok _ => { a with written := a.written ++ [f] }
    | .error e =>
      if e.isTrouble then { a with errors := a.errors ++ [complaint ("Failed to write " ++ f.1) e] }
      else { a with fault? := some e }

/-- The account of the files, where `there` tells the names of folders. -/
def account (policy : Policy) (word : Text) (folder : Path) (there : Text → Bool)
    (files : List (Text × Text)) : Account :=
  files.foldl (Account.add policy word folder there) {}

/-- What is recorded of a file that has been written. -/
def recordOf (folder : Path) (f : Text × Text) : FileRecord :=
  .ofContent f.1 (folder.child f.1).text f.2

/-- The manifest of what an account says. -/
def listingText (o : Occasion) (folder : Path) (a : Account) : Text :=
  (Manifest.mk o.timestamp folder.text (a.written.map (recordOf folder))).json ++ "\n"

/-- The manifest, if it is written, and what has ended the export early. -/
def listing (policy : Policy) (o : Occasion) (folder : Path) (there : Text → Bool) (a : Account) :
    List (Text × Text) × Option DiskFault :=
  if a.fault?.isSome || !policy.withManifest then ([], a.fault?)
  else match outcome o.word true folder manifestFile (listingText o folder a)
      (there (FileName.stored manifestFile)) with
    | .ok _ => ([(manifestFile, listingText o folder a)], none)
    | .error e => ([], if e.isTrouble then none else some e)

/-! ## An export goes as its account says -/

section

variable {base : Disk} {policy : Policy} {o : Occasion} {folder : Path}
  {es es₀ : List (Text × Node)} {a : Account} {p : Progress} {files : List (Text × Text)}

/-- An export has come as far as its account. -/
structure Follows (base : Disk) (folder : Path) (es : List (Text × Node)) (a : Account)
    (p : Progress) : Prop where
  disk : p.disk = base.withEntries folder.place (putFiles es a.written)
  records : p.records = a.written.map (recordOf folder)
  errors : p.errors = a.errors
  fault : p.fault? = a.fault?

theorem Follows.note (h : Follows base folder es a p) (level : Level) (message : Text) :
    Follows base folder es a (p.note level message) :=
  ⟨h.disk, h.records, h.errors, h.fault⟩

theorem Progress.andThen_of_ended {p : Progress} (h : p.fault? = none)
    (step : Progress → Progress) : p.andThen step = step p := by
  unfold Progress.andThen
  rw [h]
  rfl

theorem Progress.andThen_of_isSome {p : Progress} (h : p.fault?.isSome = true)
    (step : Progress → Progress) : p.andThen step = p := if_pos h

/-- A write that ends well has no folder in its way. -/
theorem putFiles_of_outcome {word : Text} {atomic : Bool} {f : Text × Text} {n : Nat}
    (h : outcome word atomic folder f.1 f.2 (HoldsFolder es (FileName.stored f.1)) = .ok n)
    (fs : List (Text × Text)) :
    putFiles es (fs ++ [f])
      = Ordered.put (FileName.stored f.1) (.file (Text.Utf8.encode f.2)) (putFiles es fs) := by
  have hbarred : ¬ barred (putFiles es fs) f = true := by
    rw [barred_putFiles, barred]
    intro hthere
    rw [hthere] at h
    exact Disk.outcome_ne_ok_of_there h
  rw [putFiles_concat, putFile, if_neg hbarred]

variable (hp : folder.IsStraight) (hf : Disk.Fits folder)
  (hbase : base.root.get? folder.place = some (.folder es₀))
include hp hf hbase

/-- Before the first file the folder has been cleaned. -/
theorem cleanFolder_follows (policy : Policy) :
    Follows base folder (kept policy.clean es₀) {} (cleanFolder policy folder { disk := base }) := by
  unfold cleanFolder kept
  split_ifs
  · refine ⟨?_, rfl, rfl, rfl⟩
    show dropStale base folder = _
    unfold dropStale
    rw [Disk.follow_of_get? hp hf hbase]
    dsimp only
    rw [hbase]
    rfl
  · exact ⟨(Disk.withEntries_self hbase).symm, rfl, rfl, rfl⟩

/-- One file. -/
theorem writeFile_follows {f : Text × Text} (hplain : Path.IsPlain f.1)
    (h : Follows base folder es a p) :
    Follows base folder es (a.add policy o.word folder (HoldsFolder es) f)
      (p.andThen (writeFile policy o folder f)) := by
  unfold Account.add
  by_cases hended : a.fault?.isSome = true
  · rw [if_pos hended, Progress.andThen_of_isSome (by rw [h.fault, hended])]
    exact h
  · have hnone : a.fault? = none := Option.not_isSome_iff_eq_none.1 hended
    rw [if_neg hended, Progress.andThen_of_ended (h.fault.trans hnone)]
    have hplace : p.disk.root.get? folder.place = some (.folder (putFiles es a.written)) := by
      rw [h.disk, Disk.get?_withEntries hbase]
    have hwrite := Disk.writeText_eq hp hplain.up hf hplace o.word policy.atomic f.2
    rw [holdsFolder_putFiles] at hwrite
    unfold writeFile
    rw [hplain.join_ofText]
    dsimp only
    rw [hwrite]
    cases hout : outcome o.word policy.atomic folder f.1 f.2
        (HoldsFolder es (FileName.stored f.1)) with
    | ok n =>
      refine ⟨?_, ?_, h.errors, h.fault⟩
      · show p.disk.withEntries folder.place _ = _
        rw [putFiles_of_outcome hout, h.disk, Disk.withEntries_withEntries hbase]
      · rw [List.map_append, ← h.records]
        rfl
    | error e =>
      dsimp only
      unfold Progress.refuse
      split_ifs
      · refine ⟨h.disk, h.records, ?_, h.fault⟩
        show p.errors ++ [complaint ("Failed to write " ++ f.1) e] = _
        rw [h.errors]
      · exact ⟨h.disk, h.records, h.errors, rfl⟩

/-- All files. -/
theorem writeFiles_follows (hplain : ∀ f ∈ files, Path.IsPlain f.1)
    (h : Follows base folder es {} p) (policy : Policy) (o : Occasion) :
    Follows base folder es (account policy o.word folder (HoldsFolder es) files)
      (writeFiles policy o folder files p) := by
  have hall : Follows base folder es (account policy o.word folder (HoldsFolder es) files)
      (files.foldl (fun p f => p.andThen (writeFile policy o folder f)) p) := by
    unfold account
    induction files using List.reverseRecOn with
    | nil => exact h
    | append_singleton files f ih =>
      rw [List.forall_mem_append, List.forall_mem_singleton] at hplain
      rw [List.foldl_concat, List.foldl_concat]
      exact writeFile_follows hp hf hbase hplain.2 (ih hplain.1)
  unfold writeFiles Progress.andThen
  split_ifs
  · exact hall
  · exact hall.note _ _

/-- An export has ended as its account says. -/
structure Ends (base : Disk) (folder : Path) (es : List (Text × Node)) (a : Account)
    (l : List (Text × Text) × Option DiskFault) (p : Progress) : Prop where
  disk : p.disk = base.withEntries folder.place (putFiles es (a.written ++ l.1))
  records : p.records = a.written.map (recordOf folder)
  errors : p.errors = a.errors
  fault : p.fault? = l.2

omit hp hf hbase in
theorem andThen_writeManifest_of_skip
    (h : (p.fault?.isSome || !policy.withManifest) = true) :
    p.andThen (writeManifest policy o folder) = p := by
  rcases (Bool.or_eq_true _ _).mp h with hended | hmanifest
  · exact Progress.andThen_of_isSome hended _
  · rw [Bool.not_eq_true'] at hmanifest
    unfold Progress.andThen writeManifest
    rw [hmanifest]
    exact ite_self p

/-- The manifest. -/
theorem writeManifest_ends (h : Follows base folder es a p) :
    Ends base folder es a (listing policy o folder (HoldsFolder es) a)
      (p.andThen (writeManifest policy o folder)) := by
  unfold listing
  by_cases hskip : (a.fault?.isSome || !policy.withManifest) = true
  · rw [if_pos hskip, andThen_writeManifest_of_skip (h.fault ▸ hskip)]
    exact ⟨by rw [h.disk, List.append_nil], h.records, h.errors, h.fault⟩
  · rw [if_neg hskip]
    simp only [Bool.or_eq_true, Bool.not_eq_true', not_or, Bool.not_eq_true, Bool.not_eq_false,
      Option.isSome_eq_false_iff, Option.isNone_iff_eq_none] at hskip
    obtain ⟨hnone, hmanifest⟩ := hskip
    have hplace : p.disk.root.get? folder.place = some (.folder (putFiles es a.written)) := by
      rw [h.disk, Disk.get?_withEntries hbase]
    have htext : (p.manifest o folder).json ++ "\n" = listingText o folder a := by
      rw [Progress.manifest, h.records]
      rfl
    have hname : manifestFile ≠ Path.up := by decide
    have hwrite := Disk.writeText_eq hp hname hf hplace o.word true (listingText o folder a)
    rw [holdsFolder_putFiles] at hwrite
    rw [Progress.andThen_of_ended (h.fault.trans hnone), writeManifest, if_pos hmanifest, htext,
      hwrite]
    cases hout : outcome o.word true folder manifestFile (listingText o folder a)
        (HoldsFolder es (FileName.stored manifestFile)) with
    | ok n =>
      refine ⟨?_, h.records, h.errors, h.fault.trans hnone⟩
      show p.disk.withEntries folder.place _ = _
      rw [putFiles_of_outcome (f := (manifestFile, listingText o folder a)) hout, h.disk,
        Disk.withEntries_withEntries hbase]
    | error e =>
      have hsame : p.disk = base.withEntries folder.place (putFiles es (a.written ++ [])) := by
        rw [h.disk, List.append_nil]
      dsimp only
      split_ifs
      · exact ⟨hsame, h.records, h.errors, h.fault.trans hnone⟩
      · exact ⟨hsame, h.records, h.errors, rfl⟩

omit hp hf hbase in
/-- The last step only says something. -/
theorem exists_conclude_eq (o : Occasion) (folder : Path) (p : Progress) :
    ∃ level message, conclude o folder p = p.note level message := by
  unfold conclude
  dsimp only
  split_ifs
  · exact ⟨_, _, rfl⟩
  · exact ⟨_, _, rfl⟩

omit hp hf hbase in
theorem Ends.conclude {l : List (Text × Text) × Option DiskFault} (h : Ends base folder es a l p) :
    Ends base folder es a l (p.andThen (conclude o folder)) := by
  unfold Progress.andThen
  split_ifs
  · exact h
  · obtain ⟨level, message, hconclude⟩ := exists_conclude_eq o folder p
    rw [hconclude]
    exact ⟨h.disk, h.records, h.errors, h.fault⟩

/-- **An export** into a folder that can be made goes as its account says. -/
theorem toFolder_ends {d : Disk} (hens : d.ensureFolder folder = (base, .ok ()))
    (hplain : ∀ f ∈ files, Path.IsPlain f.1) (policy : Policy) (o : Occasion) :
    Ends base folder (kept policy.clean es₀)
      (account policy o.word folder (HoldsFolder (kept policy.clean es₀)) files)
      (listing policy o folder (HoldsFolder (kept policy.clean es₀))
        (account policy o.word folder (HoldsFolder (kept policy.clean es₀)) files))
      (toFolder d policy o folder files) := by
  have hstart := cleanFolder_follows hp hf hbase policy
  have hfiles := writeFiles_follows hp hf hbase hplain hstart policy o
  unfold toFolder
  rw [hens]
  exact (writeManifest_ends hp hf hbase hfiles).conclude

end

/-- An export whose folder cannot be made only says so. -/
theorem toFolder_of_error {d base : Disk} {folder : Path} {f : DiskFault}
    (hens : d.ensureFolder folder = (base, .error f)) (policy : Policy) (o : Occasion)
    (files : List (Text × Text)) :
    (toFolder d policy o folder files).disk = base ∧
      (toFolder d policy o folder files).records = [] ∧
      (toFolder d policy o folder files).errors
        = (if f.isTrouble then [complaint "Fatal export error" f] else []) ∧
      (toFolder d policy o folder files).fault? = if f.isTrouble then none else some f := by
  unfold toFolder
  rw [hens]
  dsimp only
  unfold Progress.refuse
  split_ifs
  · rw [Progress.andThen_of_ended rfl]
    obtain ⟨level, message, hconclude⟩ := exists_conclude_eq o folder
      ({ disk := base : Progress }.fail
        ("Fatal export error" ++ ": " ++ f.className ++ ": " ++ f.message))
    rw [hconclude]
    exact ⟨rfl, rfl, rfl, rfl⟩
  · exact ⟨rfl, rfl, rfl, rfl⟩

/-! ## With only folders in the way -/

section

variable {o : Occasion} {folder : Path} {es : List (Text × Node)} {files : List (Text × Text)}

/-- The files that no folder bars are written, and the others are errors. -/
theorem account_of_canWrite {word : Text} (clean : Bool)
    (h : ∀ f ∈ files, CanWrite word folder f.1 f.2) :
    account { clean := clean } word folder (HoldsFolder es) files
      = { written := files.filter (!barred es ·)
          errors := ((files.filter (barred es)).map Prod.fst).map (failure word folder) } := by
  induction files using List.reverseRecOn with
  | nil => rfl
  | append_singleton files f ih =>
    rw [List.forall_mem_append, List.forall_mem_singleton] at h
    unfold account at ih ⊢
    rw [List.foldl_concat, ih h.1, Account.add, if_neg (by simp), Disk.outcome_of_canWrite h.2,
      List.filter_append, List.filter_append]
    cases hbarred : barred es f with
    | true =>
      have hthere : HoldsFolder es (FileName.stored f.1) = true := hbarred
      have hnone : [f].filter (!barred es ·) = [] := by simp [hbarred]
      have hone : [f].filter (barred es) = [f] := by simp [hbarred]
      rw [hthere, hnone, hone, List.append_nil, List.map_append, List.map_append]
      rfl
    | false =>
      have hthere : HoldsFolder es (FileName.stored f.1) = false := hbarred
      have hone : [f].filter (!barred es ·) = [f] := by simp [hbarred]
      have hnone : [f].filter (barred es) = [] := by simp [hbarred]
      rw [hthere, hnone, hone, List.append_nil]
      rfl

/-- The manifest is written unless a folder bars it. -/
theorem listing_of_canWrite (clean : Bool) {a : Account} (ha : a.fault? = none)
    (h : CanWrite o.word folder manifestFile (listingText o folder a)) :
    listing { clean := clean } o folder (HoldsFolder es) a
      = ([(manifestFile, listingText o folder a)].filter (!barred es ·), none) := by
  unfold listing
  rw [ha, if_neg (by simp), Disk.outcome_of_canWrite h]
  cases hthere : HoldsFolder es (FileName.stored manifestFile) with
  | true =>
    have hbarred : barred es (manifestFile, listingText o folder a) = true := hthere
    simp [hbarred, DiskFault.isTrouble, Disk.barrier]
  | false =>
    have hbarred : barred es (manifestFile, listingText o folder a) = false := hthere
    simp [hbarred]

end

/-! ## Another occasion -/

/-- An occasion as there are: a word, and a time that can be written. -/
structure Ordinary (o : Occasion) : Prop where
  word : IsWord o.word
  timestamp : o.timestamp.hasHalf = false

section

variable {policy : Policy} {o o' : Occasion} {folder : Path} {there : Text → Bool}
  {files : List (Text × Text)}

/-- Two accounts tell of the same files, and of the same number of errors. -/
structure AccountsAlike (a a' : Account) : Prop where
  written : a'.written = a.written
  errors : a'.errors.length = a.errors.length
  fault : a'.fault?.isSome = a.fault?.isSome

/-- **The account** does not depend on the word of the temporary files. -/
theorem account_alike (hroot : folder.slashes = 1) {word word' : Text} (h : IsWord word)
    (h' : IsWord word') (policy : Policy) (there : Text → Bool) (files : List (Text × Text)) :
    AccountsAlike (account policy word folder there files)
      (account policy word' folder there files) := by
  induction files using List.reverseRecOn with
  | nil => exact ⟨rfl, rfl, rfl⟩
  | append_singleton files f ih =>
    unfold account at ih ⊢
    rw [List.foldl_concat, List.foldl_concat]
    generalize files.foldl (Account.add policy word folder there) {} = a at ih ⊢
    generalize files.foldl (Account.add policy word' folder there) {} = a' at ih ⊢
    unfold Account.add
    by_cases hended : a.fault?.isSome = true
    · rw [if_pos hended, if_pos (ih.fault.trans hended)]
      exact ih
    · rw [if_neg hended, if_neg (ih.fault.symm ▸ hended)]
      have htext : f.2.hasHalf = f.2.hasHalf := rfl
      have halike := outcome_alike hroot h h' htext policy.atomic f.1
        (there (FileName.stored f.1))
      generalize outcome word policy.atomic folder f.1 f.2 _ = x at halike ⊢
      generalize outcome word' policy.atomic folder f.1 f.2 _ = x' at halike ⊢
      cases halike with
      | ok n n' => exact ⟨congrArg (· ++ [f]) ih.written, ih.errors, ih.fault⟩
      | @error e e' htrouble heq =>
        dsimp only
        rw [htrouble]
        split_ifs
        · exact ⟨ih.written, by simp [ih.errors], ih.fault⟩
        · exact ⟨ih.written, ih.errors, rfl⟩

/-- The manifest is written on either occasion or on none, and its text tells the time only. -/
theorem listing_alike (hroot : folder.slashes = 1) (h : Ordinary o) (h' : Ordinary o')
    (policy : Policy) (there : Text → Bool) {a a' : Account} (ha : AccountsAlike a a') :
    (listing policy o' folder there a').1.map Prod.fst
        = (listing policy o folder there a).1.map Prod.fst ∧
      (o'.timestamp = o.timestamp →
        (listing policy o' folder there a').1 = (listing policy o folder there a).1) ∧
      (listing policy o' folder there a').2.isSome
        = (listing policy o folder there a).2.isSome := by
  have htext : (listingText o' folder a').hasHalf = (listingText o folder a).hasHalf := by
    unfold listingText
    rw [Text.hasHalf_append, Text.hasHalf_append, Manifest.hasHalf_json, Manifest.hasHalf_json,
      h.timestamp, h'.timestamp, ha.written]
  have htime : o'.timestamp = o.timestamp → listingText o' folder a' = listingText o folder a := by
    intro htimestamp
    unfold listingText
    rw [htimestamp, ha.written]
  unfold listing
  rw [ha.fault]
  split_ifs with hskip
  · exact ⟨rfl, fun _ => rfl, ha.fault⟩
  · have halike := outcome_alike hroot h.word h'.word htext true manifestFile
      (there (FileName.stored manifestFile))
    generalize outcome o.word true folder manifestFile _ _ = x at halike ⊢
    generalize outcome o'.word true folder manifestFile _ _ = x' at halike ⊢
    cases halike with
    | ok n n' => exact ⟨rfl, fun ht => by rw [htime ht], rfl⟩
    | @error e e' htrouble heq =>
      refine ⟨rfl, fun _ => rfl, ?_⟩
      dsimp only
      rw [htrouble]
      split_ifs <;> rfl

end

end ValidatorGen.Export
