import ValidatorGen.Native.Source
import ValidatorGen.Proofs.Ordered

/-!
# Collecting hints

The scan goes through the blocks of a source and adds the hints of each to those of its model.

* `Collects` — each hint is found, the last one of a field, and no model is listed without a hint;
* `Collects.addBlock`, `Collects.foldl` — so it is after one more block, and after all of them.
-/

namespace ValidatorGen.Native

/-- A hint with the model and the field that it is for. -/
abbrev Entry := (Text × Text) × Text

/-- The hints in a block, in the order of its lines. -/
def Block.entries (b : Block) : List Entry :=
  (b.body.filterMap hint?).map fun h => ((b.name, h.1), h.2)

theorem get?_entries_reverse (b : Block) (model field : Text) :
    Ordered.get? (model, field) b.entries.reverse =
      if b.name = model then Ordered.get? field (blockHints b) else none := by
  rw [blockHints, Ordered.get?_ofList, Block.entries, ← List.map_reverse]
  induction (b.body.filterMap hint?).reverse with
  | nil => split_ifs <;> rfl
  | cons h hs ih =>
    rw [List.map_cons, Ordered.get?_cons, Ordered.get?_cons, ih]
    by_cases hm : b.name = model <;> by_cases hf : h.1 = field <;> simp [hm, hf]

/-- The mapping `ms` holds what the list `es` says, a later entry winning. -/
structure Collects (ms : List (Text × FieldHints)) (es : List Entry) : Prop where
  get? : ∀ model field, Ordered.get? field ((Ordered.get? model ms).getD [])
    = Ordered.get? (model, field) es.reverse
  nodup : (Ordered.keys ms).Nodup
  fields : ∀ model fs, Ordered.get? model ms = some fs → fs ≠ [] ∧ (Ordered.keys fs).Nodup

theorem collects_nil : Collects [] [] where
  get? := fun _ _ => rfl
  nodup := List.nodup_nil
  fields := fun _ _ h => by cases h

namespace Collects

variable {ms : List (Text × FieldHints)} {es : List Entry}

theorem nodup_getD (h : Collects ms es) (model : Text) :
    (Ordered.keys ((Ordered.get? model ms).getD [])).Nodup := by
  cases hm : Ordered.get? model ms with
  | none => exact List.nodup_nil
  | some fs => exact (h.fields model fs hm).2

/-- The hints of one more block. -/
theorem addBlock (h : Collects ms es) (b : Block) :
    Collects (Native.addBlock ms b) (es ++ b.entries) := by
  have hentries : ∀ model field, Ordered.get? (model, field) (es ++ b.entries).reverse
      = (if b.name = model then Ordered.get? field (blockHints b) else none).or
        (Ordered.get? field ((Ordered.get? model ms).getD [])) := by
    intro model field
    rw [List.reverse_append, Ordered.get?_append, get?_entries_reverse, h.get?]
  have hnodup : (Ordered.keys (blockHints b)).Nodup := Ordered.nodup_keys_ofList _
  unfold Native.addBlock
  dsimp only
  split_ifs with hb
  · rw [List.isEmpty_iff] at hb
    refine ⟨fun model field => ?_, h.nodup, h.fields⟩
    rw [hentries, hb]
    split_ifs <;> rfl
  · have hb : blockHints b ≠ [] := fun e => hb (by rw [e]; rfl)
    refine ⟨fun model field => ?_, Ordered.nodup_keys_put h.nodup _ _, fun model fs hfs => ?_⟩
    · rw [hentries]
      by_cases hm : b.name = model
      · subst hm
        rw [Ordered.get?_modify_self, Option.getD_some, Ordered.get?_merge,
          Ordered.get?_reverse hnodup, if_pos rfl]
      · rw [Ordered.get?_modify_of_ne hm, if_neg hm, Option.none_or]
    · by_cases hm : b.name = model
      · subst hm
        rw [Ordered.get?_modify_self, Option.some_inj] at hfs
        subst hfs
        exact ⟨Ordered.merge_ne_nil _ hb, Ordered.nodup_keys_merge (h.nodup_getD b.name) _⟩
      · rw [Ordered.get?_modify_of_ne hm] at hfs
        exact h.fields model fs hfs

theorem foldl (h : Collects ms es) (bs : List Block) :
    Collects (bs.foldl Native.addBlock ms) (es ++ bs.flatMap Block.entries) := by
  induction bs generalizing ms es with
  | nil => rw [List.flatMap_nil, List.append_nil]; exact h
  | cons b bs ih =>
    rw [List.flatMap_cons, ← List.append_assoc]
    exact ih (h.addBlock b)

theorem isSome_iff (h : Collects ms es) (model : Text) :
    (Ordered.get? model ms).isSome = true ↔ ∃ e ∈ es, e.1.1 = model := by
  constructor
  · intro hm
    obtain ⟨fs, hfs⟩ := Option.isSome_iff_exists.1 hm
    obtain ⟨⟨field, t⟩, fs', rfl⟩ := List.exists_cons_of_ne_nil (h.fields model fs hfs).1
    have hget := h.get? model field
    rw [hfs, Option.getD_some, Ordered.get?_cons, if_pos (beq_self_eq_true _)] at hget
    exact ⟨_, List.mem_reverse.1 (Ordered.mem_of_get?_eq_some hget.symm), rfl⟩
  · rintro ⟨e, he, rfl⟩
    by_contra hm
    have hget := h.get? e.1.1 e.1.2
    rw [Option.not_isSome_iff_eq_none.1 hm] at hget
    have hkey : e.1 ∈ Ordered.keys es.reverse := List.mem_map_of_mem (List.mem_reverse.2 he)
    exact Ordered.get?_eq_none_iff.1 hget.symm hkey

/-- No model is left out of the result. -/
theorem ofModels (h : Collects ms es) : (Hints.ofModels ms).models = ms := by
  refine List.filter_eq_self.2 fun e he => ?_
  have hfs := (h.fields e.1 e.2 (Ordered.get?_eq_some_of_mem h.nodup he)).1
  simpa using hfs

end Collects

end ValidatorGen.Native
