import ValidatorGen.Check.Full
import ValidatorGen.Proofs.Ordered

/-!
# The walks over names

The check walks over the models, the enumerations and the fields of each model once, with the names
and the files it has met so far.

* `modelNameFindings_eq_nil_iff`, `enumNameFindings_eq_nil_iff`, `fieldNameFindings_eq_nil_iff` —
  what a walk guarantees when it finds nothing; all that it finds are errors.
-/

namespace ValidatorGen.Check

open Ordered

/-! ## What the walks find -/

theorem fileFinding?_eq_none_iff {files : List (Text × Text)} {m : Text} :
    fileFinding? files m = none ↔
      moduleFileName m ≠ "index.ts" ∧ moduleFileName m ∉ keys files := by
  unfold fileFinding?
  dsimp only
  by_cases h : moduleFileName m = "index.ts"
  · simp [h]
  · rw [if_neg h, Option.map_eq_none_iff, get?_eq_none_iff]
    exact ⟨fun hn => ⟨h, hn⟩, fun hn => hn.2⟩

theorem keys_addFile {files : List (Text × Text)} {m : Text} (h : fileFinding? files m = none) :
    keys (addFile files m) = keys files ++ [moduleFileName m] := by
  unfold addFile
  rw [h]
  exact List.map_append

/-- Behind other models, the walk finds nothing if every model is accepted, and has a name and a
file that nobody has before it. -/
theorem modelNameFindings_eq_nil_iff {seen : List Text} {files : List (Text × Text)}
    {ms : List Text} :
    modelNameFindings seen files ms = [] ↔
      (ms.map moduleFileName).Nodup ∧ ∀ m ∈ ms, acceptsName m = true ∧ m ∉ seen ∧
        moduleFileName m ≠ "index.ts" ∧ moduleFileName m ∉ keys files := by
  induction ms generalizing seen files with
  | nil => simp [modelNameFindings]
  | cons m ms ih =>
    rw [modelNameFindings, List.map_cons, List.nodup_cons, List.forall_mem_cons]
    by_cases hm : m ∈ seen
    · simp [hm]
    · rw [if_neg hm, List.append_eq_nil_iff, List.append_eq_nil_iff, Option.toList_eq_nil_iff,
        ite_eq_left_iff]
      constructor
      · rintro ⟨⟨haccept, hfile⟩, hrest⟩
        obtain ⟨hindex, hfiles⟩ := fileFinding?_eq_none_iff.1 hfile
        obtain ⟨hnodup, hall⟩ := ih.1 hrest
        rw [keys_addFile hfile] at hall
        refine ⟨⟨?_, hnodup⟩, ⟨by simpa using haccept, hm, hindex, hfiles⟩, fun x hx => ?_⟩
        · intro hmem
          obtain ⟨x, hx, hxm⟩ := List.mem_map.1 hmem
          exact (hall x hx).2.2.2 (List.mem_append_right _ (List.mem_singleton.2 hxm))
        · obtain ⟨h1, h2, h3, h4⟩ := hall x hx
          exact ⟨h1, fun h => h2 (List.mem_cons_of_mem _ h), h3,
            fun h => h4 (List.mem_append_left _ h)⟩
      · rintro ⟨⟨hnew, hnodup⟩, ⟨haccept, -, hindex, hfiles⟩, hall⟩
        have hfile := fileFinding?_eq_none_iff.2 ⟨hindex, hfiles⟩
        refine ⟨⟨fun h => absurd haccept h, hfile⟩, ih.2 ⟨hnodup, fun x hx => ?_⟩⟩
        have hne : moduleFileName x ≠ moduleFileName m := fun h =>
          hnew (h ▸ List.mem_map_of_mem hx)
        obtain ⟨h1, h2, h3, h4⟩ := hall x hx
        rw [keys_addFile hfile]
        refine ⟨h1, fun h => ?_, h3, fun h => ?_⟩
        · rcases List.mem_cons.1 h with rfl | h
          · exact hne rfl
          · exact h2 h
        · rcases List.mem_append.1 h with h | h
          · exact h4 h
          · exact hne (List.mem_singleton.1 h)

theorem enumNameFindings_eq_nil_iff {models seen es : List Text} :
    enumNameFindings models seen es = [] ↔
      es.Nodup ∧ ∀ e ∈ es, e ∉ seen ∧ e ∉ models := by
  induction es generalizing seen with
  | nil => simp [enumNameFindings]
  | cons e es ih =>
    rw [enumNameFindings, List.append_eq_nil_iff, List.append_eq_nil_iff, ite_eq_right_iff,
      ite_eq_right_iff, ih, List.nodup_cons, List.forall_mem_cons]
    constructor
    · rintro ⟨⟨hseen, hmodel⟩, hnodup, hrest⟩
      refine ⟨⟨fun hm => (hrest e hm).1 List.mem_cons_self, hnodup⟩,
        ⟨fun h => absurd (hseen h) (by simp), fun h => absurd (hmodel h) (by simp)⟩,
        fun x hx => ⟨fun h => ?_, (hrest x hx).2⟩⟩
      exact (hrest x hx).1 (List.mem_cons_of_mem _ h)
    · rintro ⟨⟨hnew, hnodup⟩, ⟨hseen, hmodel⟩, hrest⟩
      refine ⟨⟨fun h => absurd h hseen, fun h => absurd h hmodel⟩, hnodup,
        fun x hx => ⟨fun h => ?_, (hrest x hx).2⟩⟩
      rcases List.mem_cons.1 h with rfl | h
      · exact hnew hx
      · exact (hrest x hx).1 h

theorem fieldNameFindings_eq_nil_iff {model : Text} {seen fs : List Text} :
    fieldNameFindings model seen fs = [] ↔
      fs.Nodup ∧ ∀ f ∈ fs, acceptsName f = true ∧ f ∉ seen := by
  induction fs generalizing seen with
  | nil => simp [fieldNameFindings]
  | cons f fs ih =>
    rw [fieldNameFindings, List.append_eq_nil_iff, List.append_eq_nil_iff, ite_eq_right_iff,
      ite_eq_left_iff, ih, List.nodup_cons, List.forall_mem_cons]
    constructor
    · rintro ⟨⟨hseen, haccept⟩, hnodup, hrest⟩
      refine ⟨⟨fun hm => (hrest f hm).2 List.mem_cons_self, hnodup⟩,
        ⟨by simpa using haccept, fun h => absurd (hseen h) (by simp)⟩,
        fun x hx => ⟨(hrest x hx).1, fun h => ?_⟩⟩
      exact (hrest x hx).2 (List.mem_cons_of_mem _ h)
    · rintro ⟨⟨hnew, hnodup⟩, ⟨haccept, hseen⟩, hrest⟩
      refine ⟨⟨fun h => absurd h hseen, fun h => absurd haccept h⟩, hnodup,
        fun x hx => ⟨(hrest x hx).1, fun h => ?_⟩⟩
      rcases List.mem_cons.1 h with rfl | h
      · exact hnew hx
      · exact (hrest x hx).2 h

/-! ## Which findings are errors -/

theorem isError_of_fileFinding? {files : List (Text × Text)} {m : Text} {x : Finding}
    (h : fileFinding? files m = some x) : x.isError = true := by
  unfold fileFinding? at h
  dsimp only at h
  split_ifs at h
  · cases h
    rfl
  · obtain ⟨first, -, rfl⟩ := Option.map_eq_some_iff.1 h
    rfl

theorem isError_of_mem_modelNameFindings {seen : List Text} {files : List (Text × Text)}
    {ms : List Text} {x : Finding} (h : x ∈ modelNameFindings seen files ms) :
    x.isError = true := by
  induction ms generalizing seen files with
  | nil => exact absurd h (by simp [modelNameFindings])
  | cons m ms ih =>
    rw [modelNameFindings] at h
    by_cases hm : m ∈ seen
    · rw [if_pos hm] at h
      rcases List.mem_cons.1 h with rfl | h
      · rfl
      · exact ih h
    · rw [if_neg hm] at h
      rcases List.mem_append.1 h with h | h
      · rcases List.mem_append.1 h with h | h
        · split_ifs at h
          · exact absurd h (by simp)
          · rw [List.mem_singleton.1 h]
            rfl
        · exact isError_of_fileFinding? (Option.mem_toList.1 h)
      · exact ih h

theorem isError_of_mem_enumNameFindings {models seen es : List Text} {x : Finding}
    (h : x ∈ enumNameFindings models seen es) : x.isError = true := by
  induction es generalizing seen with
  | nil => exact absurd h (by simp [enumNameFindings])
  | cons e es ih =>
    rw [enumNameFindings] at h
    rcases List.mem_append.1 h with h | h
    · rcases List.mem_append.1 h with h | h
      · rw [List.mem_singleton.1 (List.mem_ite_nil_right.1 h).2]
        rfl
      · rw [List.mem_singleton.1 (List.mem_ite_nil_right.1 h).2]
        rfl
    · exact ih h

theorem isError_of_mem_fieldNameFindings {model : Text} {seen fs : List Text} {x : Finding}
    (h : x ∈ fieldNameFindings model seen fs) : x.isError = true := by
  induction fs generalizing seen with
  | nil => exact absurd h (by simp [fieldNameFindings])
  | cons f fs ih =>
    rw [fieldNameFindings] at h
    rcases List.mem_append.1 h with h | h
    · rcases List.mem_append.1 h with h | h
      · rw [List.mem_singleton.1 (List.mem_ite_nil_right.1 h).2]
        rfl
      · rw [List.mem_singleton.1 (List.mem_ite_nil_left.1 h).2]
        rfl
    · exact ih h

end ValidatorGen.Check
