import Mathlib.Data.List.Nodup
import ValidatorGen.Ordered

/-!
# Mappings with keys of their own

* `ofList_of_nodup` — entries whose keys are distinct are their own mapping;
* `get?_eq_some_of_mem` — each of them is found under its key;
* `nodup_keys_put` — setting a value keeps the keys distinct;
* `get?_merge`, `get?_ofList` — of several values for a key the last one is found;
* `put_put`, `erase_put`, `get?_filter` — what a key leaves behind;
* `put_comm`, `modify_comm` — a known key may be set before or after another one;
* `merge_merge`, `keys_merge` — merging is associative, and the keys that are new come last.
-/

namespace ValidatorGen.Ordered

universe u v

variable {κ : Type u} {α : Type v} [BEq κ] [LawfulBEq κ]

theorem put_of_not_mem {k : κ} {m : List (κ × α)} (h : k ∉ keys m) (v : α) :
    put k v m = m ++ [(k, v)] := by
  induction m with
  | nil => rfl
  | cons e m ih =>
    rw [keys_cons, List.mem_cons, not_or] at h
    have he : ¬ (e.1 == k) = true := fun he => h.1 (eq_of_beq he).symm
    rw [put_cons, if_neg he, ih h.2, List.cons_append]

theorem merge_of_nodup {m n : List (κ × α)} (h : (keys (m ++ n)).Nodup) : merge m n = m ++ n := by
  induction n generalizing m with
  | nil => rw [List.append_nil]; rfl
  | cons e n ih =>
    have hassoc : m ++ e :: n = m ++ [e] ++ n := by rw [List.append_assoc]; rfl
    have he : e.1 ∉ keys m := by
      rw [keys, List.map_append, List.nodup_append] at h
      intro hm
      exact h.2.2 _ hm _ (List.mem_cons_self) rfl
    show merge (put e.1 e.2 m) n = _
    rw [put_of_not_mem he, hassoc]
    exact ih (hassoc ▸ h)

theorem ofList_of_nodup {es : List (κ × α)} (h : (keys es).Nodup) : ofList es = es :=
  merge_of_nodup (m := []) h

theorem get?_eq_none_iff {k : κ} {m : List (κ × α)} : get? k m = none ↔ k ∉ keys m := by
  induction m with
  | nil => simp [get?]
  | cons e m ih =>
    rw [get?_cons, keys_cons, List.mem_cons, not_or]
    by_cases he : e.1 = k
    · subst he
      simp
    · have hk : ¬ k = e.1 := fun h => he h.symm
      simp [he, hk, ih]

theorem mem_of_get?_eq_some {k : κ} {v : α} {m : List (κ × α)} (h : get? k m = some v) :
    (k, v) ∈ m := by
  induction m with
  | nil => exact absurd h (by simp [get?])
  | cons e m ih =>
    rw [get?_cons] at h
    split_ifs at h with he
    · cases h
      rw [← eq_of_beq he]
      exact List.mem_cons_self
    · exact List.mem_cons_of_mem _ (ih h)

theorem get?_eq_some_of_mem {k : κ} {v : α} {m : List (κ × α)} (hm : (keys m).Nodup)
    (h : (k, v) ∈ m) : get? k m = some v := by
  induction m with
  | nil => exact absurd h (by simp)
  | cons e m ih =>
    rw [keys_cons, List.nodup_cons] at hm
    rw [get?_cons]
    rcases List.mem_cons.1 h with rfl | h
    · simp
    · have he : ¬ (e.1 == k) = true := fun he =>
        hm.1 (eq_of_beq he ▸ List.mem_map_of_mem h)
      rw [if_neg he, ih hm.2 h]

theorem nodup_keys_put {m : List (κ × α)} (h : (keys m).Nodup) (k : κ) (v : α) :
    (keys (put k v m)).Nodup := by
  rw [keys_put]
  split_ifs with hk
  · exact h
  · refine List.nodup_append.2 ⟨h, List.nodup_singleton k, fun x hx y hy hxy => hk ?_⟩
    rw [← List.mem_singleton.1 hy, ← hxy]
    exact hx

theorem nodup_keys_merge {m : List (κ × α)} (h : (keys m).Nodup) (n : List (κ × α)) :
    (keys (merge m n)).Nodup := by
  induction n generalizing m with
  | nil => exact h
  | cons e n ih => exact ih (nodup_keys_put h e.1 e.2)

theorem nodup_keys_ofList (es : List (κ × α)) : (keys (ofList es)).Nodup :=
  nodup_keys_merge (m := []) List.nodup_nil es

/-! ## The last value of a key -/

omit [LawfulBEq κ] in
theorem get?_append (k : κ) (m n : List (κ × α)) :
    get? k (m ++ n) = (get? k m).or (get? k n) := by
  induction m with
  | nil => rfl
  | cons e m ih =>
    rw [List.cons_append, get?_cons, get?_cons, ih]
    split_ifs <;> rfl

theorem get?_merge (k : κ) (m n : List (κ × α)) :
    get? k (merge m n) = (get? k n.reverse).or (get? k m) := by
  induction n generalizing m with
  | nil => rfl
  | cons e n ih =>
    show get? k (merge (put e.1 e.2 m) n) = _
    have hput : get? k (put e.1 e.2 m) = (get? k [e]).or (get? k m) := by
      by_cases he : e.1 = k
      · subst he
        rw [get?_put_self, get?_cons, if_pos (beq_self_eq_true _), Option.some_or]
      · rw [get?_put_of_ne he, get?_cons, if_neg (by simpa using he)]
        rfl
    rw [ih, hput, List.reverse_cons, get?_append, Option.or_assoc]

theorem merge_ne_nil (m : List (κ × α)) {n : List (κ × α)} (hn : n ≠ []) : merge m n ≠ [] := by
  intro h
  obtain ⟨e, n, rfl⟩ := List.exists_cons_of_ne_nil hn
  have hget := get?_merge e.1 m (e :: n)
  rw [h] at hget
  have hkey : e.1 ∈ keys (e :: n).reverse :=
    List.mem_map_of_mem (List.mem_reverse.2 List.mem_cons_self)
  exact get?_eq_none_iff.1 (Option.or_eq_none_iff.1 hget.symm).1 hkey

theorem get?_ofList (k : κ) (es : List (κ × α)) : get? k (ofList es) = get? k es.reverse := by
  rw [ofList, get?_merge]
  exact Option.or_none

theorem get?_reverse {m : List (κ × α)} (h : (keys m).Nodup) (k : κ) :
    get? k m.reverse = get? k m := by
  rw [← get?_ofList, ofList_of_nodup h]

omit [LawfulBEq κ] in
theorem get?_map {β : Type*} (g : α → β) (k : κ) (m : List (κ × α)) :
    get? k (m.map fun e => (e.1, g e.2)) = (get? k m).map g := by
  induction m with
  | nil => rfl
  | cons e m ih =>
    rw [List.map_cons, get?_cons, get?_cons, ih]
    split_ifs <;> rfl

theorem get?_modify_self (k : κ) (d : α) (f : α → α) (m : List (κ × α)) :
    get? k (modify k d f m) = some (f ((get? k m).getD d)) :=
  get?_put_self k _ m

theorem get?_modify_of_ne {k k' : κ} (h : k ≠ k') (d : α) (f : α → α) (m : List (κ × α)) :
    get? k' (modify k d f m) = get? k' m :=
  get?_put_of_ne h _ m

/-! ## Known keys and removed ones -/

omit [LawfulBEq κ] in
theorem put_of_get? {k : κ} {v : α} {m : List (κ × α)} (h : get? k m = some v) :
    put k v m = m := by
  induction m with
  | nil => exact absurd h (by simp [get?])
  | cons e m ih =>
    rw [get?_cons] at h
    rw [put_cons]
    split_ifs at h ⊢ with he
    · cases h
      rfl
    · rw [ih h]

theorem put_put (k : κ) (v w : α) (m : List (κ × α)) : put k w (put k v m) = put k w m := by
  induction m with
  | nil => simp [put, putBy]
  | cons e m ih =>
    rw [put_cons, put_cons]
    split_ifs with he
    · rw [put_cons, if_pos he]
    · rw [put_cons, if_neg he, ih]

theorem erase_put {k : κ} {m : List (κ × α)} (h : k ∉ keys m) (v : α) :
    erase k (put k v m) = m := by
  have hne : ∀ e ∈ m, (!(e.1 == k)) = true := by
    intro e he
    rw [Bool.not_eq_true', beq_eq_false_iff_ne]
    rintro rfl
    exact h (List.mem_map_of_mem he)
  rw [put_of_not_mem h]
  unfold erase
  rw [List.filter_append, List.filter_eq_self.2 hne]
  simp

theorem get?_filter {p : κ × α → Bool} {k : κ} {m : List (κ × α)} (hm : (keys m).Nodup) :
    get? k (m.filter p) = (get? k m).filter fun v => p (k, v) := by
  induction m with
  | nil => rfl
  | cons e m ih =>
    rw [keys_cons, List.nodup_cons] at hm
    have hrest : e.1 = k → get? k (m.filter p) = none := by
      rintro rfl
      rw [ih hm.2, get?_eq_none_iff.2 hm.1]
      rfl
    rw [List.filter_cons, get?_cons]
    by_cases he : e.1 = k
    · subst he
      by_cases hp : p e = true
      · simp [hp, get?_cons, Option.filter_some]
      · simp [hp, hrest rfl, Option.filter_some]
    · have hk : ¬ (e.1 == k) = true := by simpa using he
      rw [if_neg hk]
      split_ifs
      · rw [get?_cons, if_neg hk, ih hm.2]
      · exact ih hm.2

/-! ## Several keys -/

/-- A known key has its place, whatever is set before it. -/
theorem put_comm {k k' : κ} (h : k ≠ k') {m : List (κ × α)} (hk : k ∈ keys m) (v v' : α) :
    put k v (put k' v' m) = put k' v' (put k v m) := by
  induction m with
  | nil => simp at hk
  | cons e m ih =>
    rw [keys_cons, List.mem_cons] at hk
    by_cases he : e.1 = k
    · simp [put_cons, he, h]
    · have hk : k ∈ keys m := hk.resolve_left fun h' => he h'.symm
      by_cases he' : e.1 = k'
      · have hne : ¬ k' = k := fun h' => h h'.symm
        simp [put_cons, he', hne]
      · simp [put_cons, he, he', ih hk]

theorem modify_comm {k k' : κ} (h : k ≠ k') {m : List (κ × α)} (hk : k ∈ keys m) (d d' : α)
    (f g : α → α) : modify k d f (modify k' d' g m) = modify k' d' g (modify k d f m) := by
  unfold modify
  rw [get?_put_of_ne (Ne.symm h), get?_put_of_ne h, put_comm h hk]

theorem modify_modify (k : κ) (d : α) (f g : α → α) (m : List (κ × α)) :
    modify k d f (modify k d g m) = modify k d (fun v => f (g v)) m := by
  unfold modify
  rw [get?_put_self, Option.getD_some, put_put]

theorem mem_keys_put_self (k : κ) (v : α) (m : List (κ × α)) : k ∈ keys (put k v m) := by
  rw [keys_put]
  split_ifs with h
  · exact h
  · simp

theorem mem_keys_put {k : κ} {m : List (κ × α)} (h : k ∈ keys m) (k' : κ) (v : α) :
    k ∈ keys (put k' v m) := by
  rw [keys_put]
  split_ifs
  · exact h
  · exact List.mem_append_left _ h

theorem mem_keys_modify_self (k : κ) (d : α) (f : α → α) (m : List (κ × α)) :
    k ∈ keys (modify k d f m) :=
  mem_keys_put_self k _ m

theorem mem_keys_modify {k : κ} {m : List (κ × α)} (h : k ∈ keys m) (k' : κ) (d : α) (f : α → α) :
    k ∈ keys (modify k' d f m) :=
  mem_keys_put h k' _

/-! ## Merging -/

/-- A key that the second mapping does not set may be set before it, if it is known. -/
theorem merge_put_of_mem {k : κ} {m n : List (κ × α)} (hm : k ∈ keys m) (hn : k ∉ keys n) (v : α) :
    merge (put k v m) n = put k v (merge m n) := by
  induction n generalizing m with
  | nil => rfl
  | cons e n ih =>
    rw [keys_cons, List.mem_cons, not_or] at hn
    show merge (put e.1 e.2 (put k v m)) n = put k v (merge (put e.1 e.2 m) n)
    rw [← put_comm hn.1 hm, ih (mem_keys_put hm e.1 e.2) hn.2]

theorem merge_put {n : List (κ × α)} (hn : (keys n).Nodup) (m : List (κ × α)) (k : κ) (v : α) :
    merge m (put k v n) = put k v (merge m n) := by
  induction n generalizing m with
  | nil => rfl
  | cons e n ih =>
    rw [keys_cons, List.nodup_cons] at hn
    by_cases he : e.1 = k
    · subst he
      have hput : put e.1 v (e :: n) = (e.1, v) :: n := by simp [put_cons]
      rw [hput]
      show merge (put e.1 v m) n = put e.1 v (merge (put e.1 e.2 m) n)
      rw [← merge_put_of_mem (mem_keys_put_self e.1 e.2 m) hn.1, put_put]
    · have hput : put k v (e :: n) = e :: put k v n := by simp [put_cons, he]
      rw [hput]
      exact ih hn.2 (put e.1 e.2 m)

/-- Merging from the left or from the right is the same. -/
theorem merge_merge {n : List (κ × α)} (hn : (keys n).Nodup) (m p : List (κ × α)) :
    merge (merge m n) p = merge m (merge n p) := by
  induction p generalizing n with
  | nil => rfl
  | cons e p ih =>
    show merge (put e.1 e.2 (merge m n)) p = merge m (merge (put e.1 e.2 n) p)
    rw [← merge_put hn, ih (nodup_keys_put hn e.1 e.2)]

/-- Keys of the second mapping that are not known go to the end, in their order. -/
theorem keys_foldl {β : Type*} {step : List (κ × α) → κ × β → List (κ × α)}
    (hstep : ∀ m e, keys (step m e) = if e.1 ∈ keys m then keys m else keys m ++ [e.1])
    {n : List (κ × β)} (hn : (keys n).Nodup) (m : List (κ × α)) :
    keys (n.foldl step m) = keys m ++ (keys n).filter (· ∉ keys m) := by
  induction n generalizing m with
  | nil => simp
  | cons e n ih =>
    rw [keys_cons, List.nodup_cons] at hn
    rw [List.foldl_cons, ih hn.2, hstep, keys_cons]
    split_ifs with he
    · rw [List.filter_cons_of_neg (by simpa using he)]
    · have hrest : (keys n).filter (· ∉ keys m ++ [e.1]) = (keys n).filter (· ∉ keys m) := by
        refine List.filter_congr fun k hk => ?_
        have hne : k ≠ e.1 := fun h => hn.1 (h ▸ hk)
        simp [hne]
      rw [List.filter_cons_of_pos (by simpa using he), hrest, List.append_assoc]
      rfl

theorem keys_merge {n : List (κ × α)} (hn : (keys n).Nodup) (m : List (κ × α)) :
    keys (merge m n) = keys m ++ (keys n).filter (· ∉ keys m) :=
  keys_foldl (fun m e => keys_put e.1 e.2 m) hn m

end ValidatorGen.Ordered
