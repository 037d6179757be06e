import Mathlib.Data.List.Induction
import Mathlib.Data.List.Nodup

/-!
# Members in the order in which they are first met

`List.eraseDups` goes through a list from the left and keeps what it has not met yet.

* `isFirstSeen_iff` — this is the one list that has each member once, in the order of the places at
  which the members are first met;
* `eraseDups_append_foldl` — a list goes on where the one in front of it has ended, so of that one
  only the members that were kept count;
* `eraseDups_flatMap_eraseDups` — repetitions may be dropped piece by piece, and from the whole
  then.
-/

namespace ValidatorGen

universe u v

variable {α : Type u} [BEq α]

/-- `ys` has the members of `xs`, each once, in the order in which they are first met. -/
structure IsFirstSeen (xs ys : List α) : Prop where
  nodup : ys.Nodup
  mem_iff : ∀ x, x ∈ ys ↔ x ∈ xs
  ordered : ys.Pairwise fun x y => xs.idxOf x < xs.idxOf y

/-- There is at most one such list. -/
theorem IsFirstSeen.eq {xs ys zs : List α} (hy : IsFirstSeen xs ys) (hz : IsFirstSeen xs zs) :
    ys = zs := by
  have hperm : ys.Perm zs := (List.perm_ext_iff_of_nodup hy.nodup hz.nodup).2 fun x =>
    (hy.mem_iff x).trans (hz.mem_iff x).symm
  refine hperm.eq_of_pairwise (fun x y _ _ hxy hyx => ?_) hy.ordered hz.ordered
  exact absurd hxy (Nat.lt_asymm hyx)

variable [LawfulBEq α]

/-! ## One member more -/

theorem eraseDups_concat (xs : List α) (x : α) :
    (xs ++ [x]).eraseDups = if x ∈ xs then xs.eraseDups else xs.eraseDups ++ [x] := by
  rw [List.eraseDups_append]
  split_ifs with h <;> simp [List.removeAll, List.eraseDups_cons, h]

theorem isFirstSeen_eraseDups (xs : List α) : IsFirstSeen xs xs.eraseDups := by
  induction xs using List.reverseRecOn with
  | nil => exact ⟨List.nodup_nil, fun _ => Iff.rfl, List.Pairwise.nil⟩
  | append_singleton xs x ih =>
    -- a member that was met before keeps the place at which it was met
    have hbefore : xs.eraseDups.Pairwise fun y z => (xs ++ [x]).idxOf y < (xs ++ [x]).idxOf z := by
      refine ih.ordered.imp_of_mem fun hy hz h => ?_
      rwa [List.idxOf_append_of_mem (List.mem_eraseDups.1 hy),
        List.idxOf_append_of_mem (List.mem_eraseDups.1 hz)]
    rw [eraseDups_concat]
    split_ifs with hx
    · refine ⟨ih.nodup, fun y => ?_, hbefore⟩
      rw [ih.mem_iff, List.mem_append, List.mem_singleton]
      exact ⟨.inl, fun h => h.elim id fun h => h ▸ hx⟩
    · refine ⟨?_, fun y => ?_, ?_⟩
      · refine List.nodup_append.2 ⟨ih.nodup, List.nodup_singleton x, fun y hy z hz hyz => hx ?_⟩
        rw [← List.mem_singleton.1 hz, ← hyz]
        exact List.mem_eraseDups.1 hy
      · rw [List.mem_append, List.mem_append, ih.mem_iff]
      · refine List.pairwise_append.2 ⟨hbefore, List.pairwise_singleton _ x, fun y hy z hz => ?_⟩
        have hy : y ∈ xs := List.mem_eraseDups.1 hy
        rw [List.mem_singleton.1 hz, List.idxOf_append_of_mem hy, List.idxOf_append_of_notMem hx]
        exact Nat.lt_add_right _ (List.idxOf_lt_length_iff.2 hy)

theorem isFirstSeen_iff {xs ys : List α} : IsFirstSeen xs ys ↔ ys = xs.eraseDups :=
  ⟨fun h => h.eq (isFirstSeen_eraseDups xs), fun h => h ▸ isFirstSeen_eraseDups xs⟩

/-! ## Several lists -/

theorem eraseDups_append_foldl (xs ys : List α) :
    (xs ++ ys).eraseDups =
      ys.foldl (fun zs y => if y ∈ zs then zs else zs ++ [y]) xs.eraseDups := by
  induction ys using List.reverseRecOn with
  | nil => rw [List.append_nil]; rfl
  | append_singleton ys y ih =>
    rw [← List.append_assoc, eraseDups_concat, List.foldl_append, ← ih]
    simp

/-- Of the list in front only the members that were kept count. -/
theorem eraseDups_append_congr {xs xs' : List α} (h : xs.eraseDups = xs'.eraseDups)
    (ys : List α) : (xs ++ ys).eraseDups = (xs' ++ ys).eraseDups := by
  rw [eraseDups_append_foldl, h, ← eraseDups_append_foldl]

theorem eraseDups_append_of_subset {xs ys : List α} (h : ys ⊆ xs) :
    (xs ++ ys).eraseDups = xs.eraseDups := by
  have hnone : ys.removeAll xs = [] :=
    List.filter_eq_nil_iff.2 fun y hy => by simp [h hy]
  rw [List.eraseDups_append, hnone, List.eraseDups_nil, List.append_nil]

theorem eraseDups_append_eraseDups (xs ys : List α) :
    (xs ++ ys.eraseDups).eraseDups = (xs ++ ys).eraseDups := by
  induction ys using List.reverseRecOn with
  | nil => rfl
  | append_singleton ys y ih =>
    rw [eraseDups_concat, ← List.append_assoc, eraseDups_concat, ← ih]
    split_ifs with hy hxy hxy
    · rfl
    · exact absurd (List.mem_append_right xs hy) hxy
    · rw [← List.append_assoc, eraseDups_concat, if_pos (by simpa using hxy)]
    · rw [← List.append_assoc, eraseDups_concat, if_neg (by simpa using hxy)]

theorem eraseDups_flatMap_eraseDups {β : Type v} (f : β → List α) (as : List β) :
    (as.flatMap fun a => (f a).eraseDups).eraseDups = (as.flatMap f).eraseDups := by
  induction as using List.reverseRecOn with
  | nil => rfl
  | append_singleton as a ih =>
    rw [List.flatMap_append, List.flatMap_append, List.flatMap_singleton, List.flatMap_singleton,
      eraseDups_append_eraseDups, eraseDups_append_congr ih]

/-- Choosing members and dropping repetitions may change places. -/
theorem eraseDups_filter (p : α → Bool) (xs : List α) :
    (xs.filter p).eraseDups = xs.eraseDups.filter p := by
  induction xs using List.reverseRecOn with
  | nil => rfl
  | append_singleton xs x ih =>
    rw [List.filter_append, eraseDups_concat]
    cases hp : p x with
    | false =>
      rw [List.filter_cons_of_neg (by simp [hp]), List.filter_nil, List.append_nil, ih]
      split_ifs <;> simp [hp]
    | true =>
      have hmem : x ∈ xs.filter p ↔ x ∈ xs := by rw [List.mem_filter, hp]; exact and_iff_left rfl
      rw [List.filter_cons_of_pos hp, List.filter_nil, eraseDups_concat, ih]
      by_cases hx : x ∈ xs
      · rw [if_pos (hmem.2 hx), if_pos hx]
      · rw [if_neg fun h => hx (hmem.1 h), if_neg hx, List.filter_append,
          List.filter_cons_of_pos hp, List.filter_nil]

end ValidatorGen
