import Mathlib.Data.List.Flatten
import ValidatorGen.Export.Folder
import ValidatorGen.Proofs.Disk.Write
import ValidatorGen.Proofs.Export.Manifest

/-!
# The steps of an export

The files are written into one folder, so that an export is a fold over the entries of this folder: a
file that has a folder in its place is an error and leaves its entry alone, any other one is there.

* `failure_injective` — an error names its file;
* `putFile`, `putFiles` — what one file makes of the entries, and what all of them do;
* `get?_putFiles`, `get?_putFiles_of_not_mem` — what the entries are in the end;
* `get?_kept` — what cleaning leaves of them.
-/

namespace ValidatorGen

open Disk (HoldsFolder)

/-! ## Errors -/

namespace Text

/-- The quotes that a text is shown between. -/
def quoteOf (s : Text) : CodePoint :=
  if s.contains '\'' && !s.contains '"' then '"' else '\''

theorem display_eq (s : Text) :
    display s = quoteOf s :: s.flatMap (displayChar (quoteOf s)) ++ [quoteOf s] := rfl

/-- A character that is not the quote is shown with no more between other quotes. -/
theorem displayChar_sublist {s t : Text} {c : CodePoint} (hc : c ≠ quoteOf s) :
    (displayChar (quoteOf s) c).Sublist (displayChar (quoteOf t) c) := by
  by_cases ht : c = quoteOf t
  · have hquote : c = '\'' ∨ c = '"' := by
      rw [ht, quoteOf]
      split_ifs
      · exact .inr rfl
      · exact .inl rfl
    have hself : displayChar (quoteOf s) c = [c] := by
      rw [displayChar, if_neg (by rcases hquote with rfl | rfl <;> simp [hc])]
      rcases hquote with rfl | rfl <;> decide +kernel
    rw [hself, displayChar, if_pos (.inr ht)]
    exact List.sublist_cons_self _ _
  · unfold displayChar
    simp only [hc, ht, or_false, List.Sublist.refl]

/-- The quotes change with more text only if they do not occur. -/
theorem quoteOf_not_mem {s t : Text} (h : s ⊆ t) (hne : quoteOf s ≠ quoteOf t) :
    quoteOf s ∉ s := by
  unfold quoteOf at hne ⊢
  split_ifs at hne ⊢ with hs ht ht
  · exact absurd rfl hne
  · simp only [Bool.and_eq_true, Bool.not_eq_true', List.contains_eq_mem, decide_eq_true_eq,
      decide_eq_false_iff_not] at hs
    exact hs.2
  · simp only [Bool.and_eq_true, Bool.not_eq_true', List.contains_eq_mem, decide_eq_true_eq,
      decide_eq_false_iff_not, not_and, not_not] at hs ht
    exact fun hm => ht.2 (h (hs hm))
  · exact absurd rfl hne

/-- A text with more characters is shown no shorter. -/
theorem length_display_le {s t : Text} (h : s.Sublist t) :
    (display s).length ≤ (display t).length := by
  have hflat : (s.flatMap (displayChar (quoteOf s))).Sublist
      (s.flatMap (displayChar (quoteOf t))) := by
    by_cases hq : quoteOf s = quoteOf t
    · rw [hq]
    · refine List.Sublist.flatMap_right s fun c hc => displayChar_sublist ?_
      rintro rfl
      exact quoteOf_not_mem h.subset hq hc
  have hlength := (hflat.trans (h.flatMap _)).length_le
  rw [display_eq, display_eq]
  simp only [List.length_append, List.length_cons, List.length_nil]
  omega

end Text

namespace Export

/-- What the disk says where a folder is in the place of a file. -/
def refusal (word : Text) (folder : Path) (name : Text) : DiskFault :=
  .trouble .isFolder (Disk.temporary word folder name).text (some (folder.child name).text)

/-- The error about a file that could not be written. -/
def failure (word : Text) (folder : Path) (name : Text) : Text :=
  "Failed to write " ++ name ++ ": " ++ (refusal word folder name).className ++ ": "
    ++ (refusal word folder name).message

theorem exists_failure_eq (word : Text) (folder : Path) :
    ∃ x y z : Text, ∀ name, failure word folder name
      = x ++ name ++ (y ++ Text.display (Disk.temporary word folder name).text ++ z
        ++ Text.display (folder.child name).text) := by
  refine ⟨"Failed to write ", ": " ++ Trouble.className .isFolder ++ ": " ++ "[Errno "
    ++ Text.decimal (Trouble.number .isFolder) ++ "] " ++ Trouble.text .isFolder ++ ": ", " -> ",
    fun name => ?_⟩
  simp only [failure, refusal, DiskFault.className, DiskFault.message, Option.map_some,
    Option.getD_some, List.append_assoc]

/-- An error names its file: those about different files differ. -/
theorem failure_injective {folder : Path} (hfolder : folder.IsStraight) (word : Text) :
    Function.Injective (failure word folder) := by
  obtain ⟨x, y, z, heq⟩ := exists_failure_eq word folder
  obtain ⟨t, ht⟩ := Path.exists_text_child hfolder.slashes
  have hle : ∀ a b : Text, a.length ≤ b.length → failure word folder a = failure word folder b →
      a = b := by
    intro a b hlength hab
    rw [heq, heq] at hab
    have hprefix : x ++ a <+: x ++ b := by
      refine List.prefix_of_prefix_length_le (List.prefix_append _ _)
        (hab.symm ▸ List.prefix_append (x ++ b) _) ?_
      simpa using hlength
    have hsub : a.Sublist b := ((List.prefix_append_right_inj x).1 hprefix).sublist
    have htarget : (folder.child a).text.Sublist (folder.child b).text := by
      rw [ht, ht]
      exact hsub.append_left _
    have htemporary : (Disk.temporary word folder a).text.Sublist
        (Disk.temporary word folder b).text := by
      unfold Disk.temporary Disk.temporaryName
      rw [ht, ht]
      refine List.Sublist.append_left ?_ _
      exact ((hsub.append_left _).append_right _).append_right _ |>.append_right _
    have h₁ := Text.length_display_le htarget
    have h₂ := Text.length_display_le htemporary
    have hsame := congrArg List.length hab
    simp only [List.length_append] at hsame
    exact hsub.eq_of_length (by omega)
  intro a b hab
  rcases Nat.le_total a.length b.length with h | h
  · exact hle a b h hab
  · exact (hle b a h hab.symm).symm

/-! ## The entries of the folder -/

section

variable {es : List (Text × Node)} {f : Text × Text} {fs : List (Text × Text)} {a : Text}
  {clean : Bool}

/-- A folder is in the place of the file. -/
def barred (es : List (Text × Node)) (f : Text × Text) : Bool :=
  HoldsFolder es (FileName.stored f.1)

/-- The entries after a file has been written. -/
def putFile (es : List (Text × Node)) (f : Text × Text) : List (Text × Node) :=
  if barred es f then es
  else Ordered.put (FileName.stored f.1) (.file (Text.Utf8.encode f.2)) es

/-- The entries after some files have been written. -/
def putFiles (es : List (Text × Node)) (fs : List (Text × Text)) : List (Text × Node) :=
  fs.foldl putFile es

theorem putFiles_concat (es : List (Text × Node)) (fs : List (Text × Text)) (f : Text × Text) :
    putFiles es (fs ++ [f]) = putFile (putFiles es fs) f := List.foldl_concat _ _ _ _

theorem get?_putFile_of_ne (h : FileName.stored f.1 ≠ a) :
    Ordered.get? a (putFile es f) = Ordered.get? a es := by
  unfold putFile
  split_ifs
  · rfl
  · exact Ordered.get?_put_of_ne h _ _

/-- Writing a file makes no folder and takes none away. -/
theorem holdsFolder_putFile (es : List (Text × Node)) (f : Text × Text) (a : Text) :
    HoldsFolder (putFile es f) a = HoldsFolder es a := by
  by_cases ha : FileName.stored f.1 = a
  · subst ha
    unfold putFile
    split_ifs with hbarred
    · rfl
    · rw [HoldsFolder, Ordered.get?_put_self]
      exact (Bool.eq_false_iff.2 hbarred).symm
  · rw [HoldsFolder, get?_putFile_of_ne ha, ← HoldsFolder]

theorem holdsFolder_putFiles (es : List (Text × Node)) (fs : List (Text × Text)) (a : Text) :
    HoldsFolder (putFiles es fs) a = HoldsFolder es a := by
  induction fs using List.reverseRecOn with
  | nil => rfl
  | append_singleton fs f ih => rw [putFiles_concat, holdsFolder_putFile, ih]

theorem barred_putFiles (es : List (Text × Node)) (fs : List (Text × Text)) (f : Text × Text) :
    barred (putFiles es fs) f = barred es f := holdsFolder_putFiles _ _ _

/-- What no file has the name of is left alone. -/
theorem get?_putFiles_of_not_mem (h : ∀ f ∈ fs, FileName.stored f.1 ≠ a) :
    Ordered.get? a (putFiles es fs) = Ordered.get? a es := by
  induction fs using List.reverseRecOn with
  | nil => rfl
  | append_singleton fs f ih =>
    rw [putFiles_concat, get?_putFile_of_ne (h f (by simp)),
      ih fun g hg => h g (List.mem_append_left _ hg)]

/-- So is every folder. -/
theorem get?_putFiles_of_holdsFolder (h : HoldsFolder es a = true) :
    Ordered.get? a (putFiles es fs) = Ordered.get? a es := by
  induction fs using List.reverseRecOn with
  | nil => rfl
  | append_singleton fs f ih =>
    rw [putFiles_concat, ← ih]
    by_cases ha : FileName.stored f.1 = a
    · have hbarred : barred (putFiles es fs) f = true := by
        rw [barred_putFiles, barred, ha, h]
      rw [putFile, if_pos hbarred]
    · exact get?_putFile_of_ne ha

/-- A file that nothing bars holds its text in the end, unless another one has its name. -/
theorem get?_putFiles (hf : f ∈ fs) (hbarred : barred es f = false)
    (hother : ∀ g ∈ fs, FileName.stored g.1 = FileName.stored f.1 → g = f) :
    Ordered.get? (FileName.stored f.1) (putFiles es fs)
      = some (.file (Text.Utf8.encode f.2)) := by
  induction fs using List.reverseRecOn with
  | nil => cases hf
  | append_singleton fs g ih =>
    rw [putFiles_concat]
    by_cases hg : FileName.stored g.1 = FileName.stored f.1
    · obtain rfl := hother g (by simp) hg
      have hput : barred (putFiles es fs) g = false := by rw [barred_putFiles, hbarred]
      rw [putFile, if_neg (by simp [hput]), Ordered.get?_put_self]
    · have hmem : f ∈ fs := by
        rcases List.mem_append.1 hf with hf | hf
        · exact hf
        · exact absurd (by rw [List.mem_singleton.1 hf]) hg
      rw [get?_putFile_of_ne hg]
      exact ih hmem fun g hg => hother g (List.mem_append_left _ hg)

/-! ### Cleaning -/

/-- The entries that cleaning leaves. -/
def kept (clean : Bool) (es : List (Text × Node)) : List (Text × Node) :=
  if clean then es.filter (!isStale ·) else es

/-- Cleaning takes nothing away but files. -/
theorem get?_kept (clean : Bool) (hnames : (Ordered.keys es).Nodup) (a : Text) :
    Ordered.get? a (kept clean es) = Ordered.get? a es ∨
      Ordered.get? a (kept clean es) = none ∧ clean = true ∧
        ∃ c, Ordered.get? a es = some (.file c) ∧ isStale (a, .file c) = true := by
  unfold kept
  cases clean with
  | false => exact .inl rfl
  | true =>
    rw [if_pos rfl, Ordered.get?_filter hnames]
    cases hget : Ordered.get? a es with
    | none => exact .inl rfl
    | some n =>
      cases n with
      | folder es' => exact .inl rfl
      | file c =>
        cases hstale : isStale (a, .file c) with
        | false => exact .inl (by rw [Option.filter_some, hstale]; rfl)
        | true => exact .inr ⟨by rw [Option.filter_some, hstale]; rfl, rfl, c, rfl, hstale⟩

theorem holdsFolder_kept (hnames : (Ordered.keys es).Nodup) (a : Text) :
    HoldsFolder (kept clean es) a = HoldsFolder es a := by
  rcases get?_kept clean hnames a with h | ⟨h, -, c, hc, -⟩
  · rw [HoldsFolder, h, ← HoldsFolder]
  · rw [HoldsFolder, HoldsFolder, h, hc]
    rfl

end

end Export

end ValidatorGen
