import ValidatorGen.Check.Full
import ValidatorGen.Proofs.Ordered

/-!
# Identifiers and their owners

The last walk keeps the first owner of each identifier that it has met.

* `clashFindings_eq_nil_iff` — it finds nothing if each identifier has one owner;
* `isOwned_identifiers_iff` — that is, if no two schemas take the same name.
-/

namespace ValidatorGen.Check

open Ordered

/-- Each identifier has one owner. -/
def IsOwned (ids : List (Text × Owner)) : Prop := ∀ x ∈ ids, ∀ y ∈ ids, x.1 = y.1 → x.2 = y.2

theorem isOwned_concat {ids : List (Text × Owner)} {i : Text} {o : Owner} (h : IsOwned ids)
    (hi : i ∉ keys ids) : IsOwned (ids ++ [(i, o)]) := by
  have hne : ∀ x ∈ ids, x.1 ≠ i := fun x hx e => hi (e ▸ List.mem_map_of_mem hx)
  intro x hx y hy hxy
  rcases List.mem_append.1 hx with hx | hx
  · rcases List.mem_append.1 hy with hy | hy
    · exact h x hx y hy hxy
    · rw [List.mem_singleton.1 hy] at hxy
      exact absurd hxy (hne x hx)
  · rw [List.mem_singleton.1 hx] at hxy ⊢
    rcases List.mem_append.1 hy with hy | hy
    · exact absurd hxy.symm (hne y hy)
    · rw [List.mem_singleton.1 hy]

/-- Only the first owner of an identifier is kept, and that is enough. -/
theorem clashFindings_eq_nil_iff {taken ids : List (Text × Owner)} (h : IsOwned taken) :
    clashFindings taken ids = [] ↔ IsOwned (taken ++ ids) := by
  induction ids generalizing taken with
  | nil => simpa [clashFindings] using h
  | cons p ids ih =>
    obtain ⟨i, o⟩ := p
    rw [clashFindings]
    cases hget : get? i taken with
    | none =>
      dsimp only
      rw [ih (isOwned_concat h (get?_eq_none_iff.1 hget)), List.append_assoc, List.singleton_append]
    | some first =>
      have hfirst : (i, first) ∈ taken := mem_of_get?_eq_some hget
      dsimp only
      rw [List.append_eq_nil_iff, ite_eq_left_iff, ih h]
      constructor
      · rintro ⟨ho, hrest⟩
        have ho : first = o := by simpa using ho
        -- the identifier stands in front already, so that the list has the same members
        have hmem : ∀ x ∈ taken ++ (i, o) :: ids, x ∈ taken ++ ids := by
          intro x hx
          rcases List.mem_append.1 hx with hx | hx
          · exact List.mem_append_left _ hx
          · rcases List.mem_cons.1 hx with rfl | hx
            · exact List.mem_append_left _ (ho ▸ hfirst)
            · exact List.mem_append_right _ hx
        exact fun x hx y hy => hrest x (hmem x hx) y (hmem y hy)
      · intro hall
        have hmem : ∀ x ∈ taken ++ ids, x ∈ taken ++ (i, o) :: ids := fun x hx =>
          (List.mem_append.1 hx).elim (List.mem_append_left _)
            fun hx => List.mem_append_right _ (List.mem_cons_of_mem _ hx)
        refine ⟨fun hne => absurd ?_ hne, fun x hx y hy => hall x (hmem x hx) y (hmem y hy)⟩
        exact hall _ (List.mem_append_left _ hfirst) _ (List.mem_append_right _ List.mem_cons_self)
          rfl

theorem mem_identifiers {d : DataModel} {c : Config} {x : Text × Owner} :
    x ∈ identifiers d c ↔ (∃ m ∈ d.modelNames, x = (c.modelSchemaName m, .model m)) ∨
      (enumsStandAlone d c = true ∧ ∃ n ∈ d.enumNames, x = (enumSchemaName n, .enum n)) := by
  unfold identifiers DataModel.modelNames DataModel.enumNames
  rw [List.mem_append]
  refine or_congr ?_ ?_
  · simp [eq_comm]
  · split_ifs with h <;> simp [h, eq_comm]

theorem isOwned_identifiers_iff {d : DataModel} {c : Config} :
    IsOwned (identifiers d c) ↔
      (∀ m ∈ d.modelNames, ∀ n ∈ d.modelNames, m ≠ n →
        c.modelSchemaName m ≠ c.modelSchemaName n) ∧
      (enumsStandAlone d c = true → ∀ m ∈ d.enumNames, ∀ n ∈ d.enumNames, m ≠ n →
        enumSchemaName m ≠ enumSchemaName n) ∧
      (enumsStandAlone d c = true → ∀ m ∈ d.modelNames, ∀ n ∈ d.enumNames,
        c.modelSchemaName m ≠ enumSchemaName n) := by
  constructor
  · intro h
    refine ⟨fun m hm n hn hne he => hne ?_, fun hs m hm n hn hne he => hne ?_,
      fun hs m hm n hn he => ?_⟩
    · have ho := h _ (mem_identifiers.2 (.inl ⟨m, hm, rfl⟩)) _
        (mem_identifiers.2 (.inl ⟨n, hn, rfl⟩)) he
      exact Owner.model.inj ho
    · have ho := h _ (mem_identifiers.2 (.inr ⟨hs, m, hm, rfl⟩)) _
        (mem_identifiers.2 (.inr ⟨hs, n, hn, rfl⟩)) he
      exact Owner.enum.inj ho
    · have ho := h _ (mem_identifiers.2 (.inl ⟨m, hm, rfl⟩)) _
        (mem_identifiers.2 (.inr ⟨hs, n, hn, rfl⟩)) he
      exact absurd ho (by simp)
  · rintro ⟨hmodels, henums, hapart⟩ x hx y hy he
    rcases mem_identifiers.1 hx with ⟨m, hm, rfl⟩ | ⟨hs, m, hm, rfl⟩
    · rcases mem_identifiers.1 hy with ⟨n, hn, rfl⟩ | ⟨hs, n, hn, rfl⟩
      · by_contra hne
        exact hmodels m hm n hn (fun hmn => hne (congrArg Owner.model hmn)) he
      · exact absurd he (hapart hs m hm n hn)
    · rcases mem_identifiers.1 hy with ⟨n, hn, rfl⟩ | ⟨-, n, hn, rfl⟩
      · exact absurd he.symm (hapart hs n hn m hm)
      · by_contra hne
        exact henums hs m hm n hn (fun hmn => hne (congrArg Owner.enum hmn)) he

theorem identifierFindings_eq_nil_iff {d : DataModel} {c : Config} :
    identifierFindings d c = [] ↔
      (enumsStandAlone d c = true → ∀ m ∈ d.modelNames, moduleFileName m ≠ "enums.ts") ∧
      IsOwned (identifiers d c) := by
  have hfile : (if enumsStandAlone d c = true then
      (d.modelNames.filter (moduleFileName · = "enums.ts")).map (Finding.reservedFile · "enums.ts")
      else []) = [] ↔
      (enumsStandAlone d c = true → ∀ m ∈ d.modelNames, moduleFileName m ≠ "enums.ts") := by
    rw [ite_eq_right_iff, List.map_eq_nil_iff, List.filter_eq_nil_iff]
    simp only [decide_eq_true_eq, ne_eq]
  unfold identifierFindings
  rw [List.append_eq_nil_iff, hfile, clashFindings_eq_nil_iff (fun x hx => absurd hx (by simp)),
    List.nil_append]

theorem isError_of_mem_clashFindings {taken ids : List (Text × Owner)} {x : Finding}
    (h : x ∈ clashFindings taken ids) : x.isError = true := by
  induction ids generalizing taken with
  | nil => exact absurd h (by simp [clashFindings])
  | cons p ids ih =>
    rw [clashFindings] at h
    split at h
    · exact ih h
    · rcases List.mem_append.1 h with h | h
      · split_ifs at h
        · exact absurd h (by simp)
        · rw [List.mem_singleton.1 h]
          rfl
      · exact ih h

theorem isError_of_mem_identifierFindings {d : DataModel} {c : Config} {x : Finding}
    (h : x ∈ identifierFindings d c) : x.isError = true := by
  rcases List.mem_append.1 h with h | h
  · split_ifs at h
    · obtain ⟨m, -, rfl⟩ := List.mem_map.1 h
      rfl
    · exact absurd h (by simp)
  · exact isError_of_mem_clashFindings h

end ValidatorGen.Check
