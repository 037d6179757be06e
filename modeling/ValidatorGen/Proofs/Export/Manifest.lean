import Mathlib.Algebra.GroupWithZero.Nat
import ValidatorGen.Export.Manifest
import ValidatorGen.Proofs.Text

/-!
# What a manifest says

* `totalBytes_eq`, `totalLines_eq` — the totals are sums over the files;
* `SameTotals.of_files` — manifests of the same files have the same totals;
* `hasHalf_json` — the only halves of surrogate pairs in a manifest are those in what it is told:
  the time, the folder and the names of the files.
-/

namespace ValidatorGen

/-! ## Halves of surrogate pairs -/

namespace Text

variable {s t : Text}

theorem hasHalf_eq_false_iff : s.hasHalf = false ↔ ∀ c ∈ s, c.isHalf = false := by
  simp [hasHalf]

@[simp] theorem hasHalf_nil : hasHalf [] = false := rfl

@[simp] theorem hasHalf_append (s t : Text) : hasHalf (s ++ t) = (s.hasHalf || t.hasHalf) :=
  List.any_append

@[simp] theorem hasHalf_ofChars (cs : List Char) : hasHalf (ofChars cs) = false := by
  rw [hasHalf, ofChars, List.any_map]
  exact List.any_eq_false.2 fun _ _ => Bool.false_ne_true

@[simp] theorem hasHalf_ofString (s : String) : hasHalf (ofString s) = false := hasHalf_ofChars _

@[simp] theorem hasHalf_decimal (n : Nat) : hasHalf (decimal n) = false := hasHalf_ofChars _

@[simp] theorem hasHalf_hex (width n : Nat) : hasHalf (hex width n) = false := by
  have hzeros : hasHalf (repeated (width - (digitsIn 16 n).length) '0') = false :=
    hasHalf_eq_false_iff.2 fun c hc => by rw [List.eq_of_mem_replicate hc]; rfl
  rw [hex, hasHalf_append, hzeros]
  exact hasHalf_ofChars _

theorem hasHalf_flatMap {α : Type*} (f : α → Text) (l : List α) :
    hasHalf (l.flatMap f) = l.any fun a => (f a).hasHalf := by
  rw [hasHalf, List.any_flatMap]
  rfl

@[simp] theorem hasHalf_sha256 (s : Text) : hasHalf (sha256 s) = false := by
  rw [sha256, hasHalf_flatMap]
  simp

theorem hasHalf_join {sep : Text} (hsep : sep.hasHalf = false) (ts : List Text) :
    hasHalf (join sep ts) = ts.any hasHalf := by
  cases ts with
  | nil => rfl
  | cons t ts =>
    rw [join_cons, hasHalf_append, hasHalf_flatMap]
    simp only [hasHalf_append, hsep, Bool.false_or, List.any_cons]

end Text

/-- An escape stands for a character, and a half for itself. -/
theorem Json.hasHalf_escapeChar (c : CodePoint) : (Json.escapeChar c).hasHalf = c.isHalf := by
  cases c with
  | half n =>
    have hn : ¬ (CodePoint.half n).toNat < 0x20 := by
      simp only [CodePoint.toNat_half, CodePoint.firstHalf]
      omega
    simp [Json.escapeChar, hn, Text.hasHalf, CodePoint.isHalf]
  | char c =>
    unfold Json.escapeChar
    split_ifs
    all_goals first | rfl | skip
    exact Text.hasHalf_hex 4 _

@[simp] theorem Json.hasHalf_quoted (s : Text) : (Json.quoted s).hasHalf = s.hasHalf := by
  simp only [Json.quoted, Text.hasHalf_append, Text.hasHalf_ofString, Text.hasHalf_flatMap,
    Json.hasHalf_escapeChar, Bool.false_or, Bool.or_false]
  rfl

/-! ## Manifests -/

namespace Manifest

theorem totalBytes_eq (m : Manifest) : m.totalBytes = (m.files.map (·.sizeBytes)).sum := by
  rw [totalBytes, List.sum_eq_foldr, List.foldr_map]

theorem totalLines_eq (m : Manifest) : m.totalLines = (m.files.map (·.lineCount)).sum := by
  rw [totalLines, List.sum_eq_foldr, List.foldr_map]

/-- Two manifests have the same totals. -/
structure SameTotals (m n : Manifest) : Prop where
  files : m.totalFiles = n.totalFiles
  bytes : m.totalBytes = n.totalBytes
  lines : m.totalLines = n.totalLines

theorem SameTotals.of_files {m n : Manifest} (h : m.files = n.files) : m.SameTotals n := by
  refine ⟨?_, ?_, ?_⟩
  · rw [totalFiles, totalFiles, h]
  · rw [totalBytes, totalBytes, h]
  · rw [totalLines, totalLines, h]

theorem hasHalf_commaLines (ls : List Text) : (commaLines ls).hasHalf = ls.any Text.hasHalf :=
  Text.hasHalf_join rfl ls

theorem hasHalf_recordJson (r : FileRecord) :
    (recordJson r).hasHalf = (r.relativePath.hasHalf || r.sha256.hasHalf) := by
  simp [recordJson, entry, hasHalf_commaLines]

theorem hasHalf_json (m : Manifest) :
    m.json.hasHalf = (m.timestamp.hasHalf || m.outputDirectory.hasHalf
      || m.files.any fun r => r.relativePath.hasHalf || r.sha256.hasHalf) := by
  have hrelease : release.hasHalf = false := Text.hasHalf_ofString _
  have hrecords : (m.files.map recordJson).any Text.hasHalf
      = m.files.any fun r => r.relativePath.hasHalf || r.sha256.hasHalf := by
    rw [List.any_map]
    exact congrArg m.files.any (funext hasHalf_recordJson)
  by_cases hempty : m.files = []
  · simp [json, entry, hasHalf_commaLines, hrelease, hempty]
  · simp [json, entry, hasHalf_commaLines, hrelease, hempty, hrecords, Bool.or_assoc]

end Manifest

end ValidatorGen
