import ValidatorGen.Emit.Import
import ValidatorGen.Proofs.FirstSeen
import ValidatorGen.Proofs.Ordered

/-!
# Merged imports

* `mem_namesOf_mergeImports` — merging lists of names by module loses none and invents none;
* `nodup_keys_mergeImports` — there is one list for each module;
* `keys_mergeImports`, `namesOf_mergeImports` — modules and names in the order in which they are
  first met;
* `mergeImports_map` — groups may be merged in parts first;
* `isFirstSeen_mergeImports` — merging neither loses, repeats nor moves anything.
-/

namespace ValidatorGen.Emit

open Ordered

/-- The names to import from a module. -/
def namesOf (m : Imports) (module : Text) : List Text := (get? module m).getD []

theorem namesOf_modify (m : Imports) (i : Text × List Text) (k : Text) :
    namesOf (Ordered.modify i.1 [] (addNames · i.2) m) k =
      if i.1 = k then addNames (namesOf m k) i.2 else namesOf m k := by
  unfold namesOf Ordered.modify
  split_ifs with h
  · rw [← h, get?_put_self]
    rfl
  · rw [get?_put_of_ne h]

theorem mem_namesOf_addImports {m group : Imports} {k x : Text} :
    x ∈ namesOf (addImports m group) k ↔
      x ∈ namesOf m k ∨ ∃ i ∈ group, i.1 = k ∧ x ∈ i.2 := by
  unfold addImports
  induction group generalizing m with
  | nil => simp
  | cons i group ih =>
    rw [List.foldl_cons, ih, namesOf_modify]
    by_cases h : i.1 = k
    · simp [h, mem_addNames, or_assoc]
    · simp [h]

theorem mem_namesOf_mergeImports {groups : List Imports} {k x : Text} :
    x ∈ namesOf (mergeImports groups) k ↔ ∃ g ∈ groups, ∃ i ∈ g, i.1 = k ∧ x ∈ i.2 := by
  suffices h : ∀ m : Imports, x ∈ namesOf (groups.foldl addImports m) k ↔
      x ∈ namesOf m k ∨ ∃ g ∈ groups, ∃ i ∈ g, i.1 = k ∧ x ∈ i.2 by
    rw [mergeImports, h]
    simp [namesOf, get?]
  induction groups with
  | nil => simp
  | cons g groups ih =>
    intro m
    rw [List.foldl_cons, ih, mem_namesOf_addImports]
    simp [or_assoc]

theorem nodup_keys_addImports {m : Imports} (h : (keys m).Nodup) (group : Imports) :
    (keys (addImports m group)).Nodup := by
  unfold addImports
  induction group generalizing m with
  | nil => exact h
  | cons i group ih => exact ih (nodup_keys_put h _ _)

theorem nodup_keys_mergeImports (groups : List Imports) : (keys (mergeImports groups)).Nodup := by
  suffices h : ∀ m : Imports, (keys m).Nodup → (keys (groups.foldl addImports m)).Nodup from
    h [] List.nodup_nil
  induction groups with
  | nil => exact fun _ h => h
  | cons g groups ih => exact fun m h => ih _ (nodup_keys_addImports h g)

/-- What a statement imports comes from a group for its module. -/
theorem exists_group_of_mem_mergeImports {groups : List Imports} {i : Text × List Text} {x : Text}
    (hi : i ∈ mergeImports groups) (hx : x ∈ i.2) : ∃ g ∈ groups, ∃ j ∈ g, j.1 = i.1 ∧ x ∈ j.2 := by
  have hget : get? i.1 (mergeImports groups) = some i.2 :=
    get?_eq_some_of_mem (nodup_keys_mergeImports groups) hi
  refine mem_namesOf_mergeImports.1 ?_
  rw [namesOf, hget]
  exact hx

/-- A name of a group is imported by a statement for its module. -/
theorem exists_mem_mergeImports {groups : List Imports} {g : Imports} {i : Text × List Text}
    {x : Text} (hg : g ∈ groups) (hi : i ∈ g) (hx : x ∈ i.2) :
    ∃ names, (i.1, names) ∈ mergeImports groups ∧ x ∈ names := by
  have h : x ∈ namesOf (mergeImports groups) i.1 :=
    mem_namesOf_mergeImports.2 ⟨g, hg, i, hi, rfl, hx⟩
  unfold namesOf at h
  cases hget : get? i.1 (mergeImports groups) with
  | none => exact absurd h (by simp [hget])
  | some names => exact ⟨names, mem_of_get?_eq_some hget, by simpa [hget] using h⟩

/-! ## One entry after the other -/

/-- Merging goes through the entries of all groups. -/
theorem mergeImports_eq_foldl (groups : List Imports) :
    mergeImports groups =
      groups.flatten.foldl (fun m i => Ordered.modify i.1 [] (addNames · i.2) m) [] :=
  (List.foldl_flatten ..).symm

theorem addNames_eraseDups (there names : List Text) :
    addNames there.eraseDups names = (there ++ names).eraseDups :=
  (eraseDups_append_foldl there names).symm

/-- The names that entries list for a module, one entry behind the other. -/
def listed (entries : Imports) (module : Text) : List Text :=
  (entries.filter (·.1 = module)).flatMap (·.2)

theorem listed_append (m n : Imports) (module : Text) :
    listed (m ++ n) module = listed m module ++ listed n module := by
  unfold listed
  rw [List.filter_append, List.flatMap_append]

theorem listed_flatten (groups : List Imports) (module : Text) :
    listed groups.flatten module = groups.flatMap (listed · module) := by
  induction groups with
  | nil => rfl
  | cons g groups ih => rw [List.flatten_cons, listed_append, ih, List.flatMap_cons]

/-- Modules go to the end when they are first met. -/
theorem keys_mergeImports (groups : List Imports) :
    keys (mergeImports groups) = (groups.flatMap keys).eraseDups := by
  have hkeys : groups.flatMap keys = keys groups.flatten := by
    unfold keys
    rw [List.map_flatten, List.flatMap_def]
  rw [mergeImports_eq_foldl, hkeys]
  induction groups.flatten using List.reverseRecOn with
  | nil => rfl
  | append_singleton entries i ih =>
    have hconcat : keys (entries ++ [i]) = keys entries ++ [i.1] := List.map_append
    rw [List.foldl_concat, Ordered.modify, keys_put, ih, hconcat, eraseDups_concat]
    exact if_congr List.mem_eraseDups rfl rfl

theorem namesOf_mergeImports (groups : List Imports) (module : Text) :
    namesOf (mergeImports groups) module = (listed groups.flatten module).eraseDups := by
  rw [mergeImports_eq_foldl]
  induction groups.flatten using List.reverseRecOn with
  | nil => rfl
  | append_singleton entries i ih =>
    rw [List.foldl_concat, namesOf_modify, ih, listed_append]
    by_cases h : i.1 = module
    · rw [if_pos h, addNames_eraseDups]
      simp [listed, h]
    · rw [if_neg h]
      simp [listed, h]

/-! ## Laws of merging -/

/-- A list of names for each module, in the order of the modules. -/
theorem map_namesOf {m : Imports} (hm : (keys m).Nodup) :
    (keys m).map (fun k => (k, namesOf m k)) = m := by
  rw [keys, List.map_map]
  refine (List.map_congr_left fun i hi => ?_).trans (List.map_id m)
  refine Prod.ext rfl ?_
  show (get? i.1 m).getD [] = i.2
  rw [get?_eq_some_of_mem hm hi, Option.getD_some]

/-- Modules, their order and the names of each make up the whole. -/
theorem eq_of_keys_of_namesOf {m n : Imports} (hm : (keys m).Nodup) (hkeys : keys m = keys n)
    (hnames : ∀ k, namesOf m k = namesOf n k) : m = n :=
  calc m = (keys m).map fun k => (k, namesOf m k) := (map_namesOf hm).symm
    _ = (keys n).map fun k => (k, namesOf n k) := by simp only [hkeys, hnames]
    _ = n := map_namesOf (hkeys ▸ hm)

/-- With one entry for each module, what is listed for it is its entry. -/
theorem listed_of_nodup {m : Imports} (hm : (keys m).Nodup) (module : Text) :
    listed m module = namesOf m module := by
  induction m with
  | nil => rfl
  | cons i m ih =>
    rw [keys_cons, List.nodup_cons] at hm
    have hcons : listed (i :: m) module
        = (if i.1 = module then i.2 else []) ++ listed m module := by
      rw [← List.singleton_append, listed_append]
      by_cases h : i.1 = module <;> simp [listed, h]
    rw [hcons, ih hm.2, namesOf, namesOf, get?_cons]
    by_cases h : i.1 = module
    · have hnone : get? module m = none := get?_eq_none_iff.2 (h ▸ hm.1)
      simp [h, hnone]
    · simp [h]

/-- Merging keeps the entries apart by module, so merged groups can be merged again. -/
theorem mergeImports_map (parts : List (List Imports)) :
    mergeImports (parts.map mergeImports) = mergeImports parts.flatten := by
  refine eq_of_keys_of_namesOf (nodup_keys_mergeImports _) ?_ fun k => ?_
  · calc keys (mergeImports (parts.map mergeImports))
      _ = (parts.flatMap fun gs => (gs.flatMap keys).eraseDups).eraseDups := by
        simp only [keys_mergeImports, List.flatMap_map]
      _ = (parts.flatMap fun gs => gs.flatMap keys).eraseDups := eraseDups_flatMap_eraseDups ..
      _ = keys (mergeImports parts.flatten) := by
        rw [keys_mergeImports, List.flatten_eq_flatMap, List.flatMap_assoc]; rfl
  · have hlisted : ∀ gs : List Imports, listed (mergeImports gs) k
        = (listed gs.flatten k).eraseDups := fun gs => by
      rw [listed_of_nodup (nodup_keys_mergeImports gs), namesOf_mergeImports]
    calc namesOf (mergeImports (parts.map mergeImports)) k
      _ = (parts.flatMap fun gs => (listed gs.flatten k).eraseDups).eraseDups := by
        simp only [namesOf_mergeImports, listed_flatten, List.flatMap_map, hlisted]
      _ = (parts.flatMap fun gs => listed gs.flatten k).eraseDups :=
        eraseDups_flatMap_eraseDups ..
      _ = namesOf (mergeImports parts.flatten) k := by
        rw [namesOf_mergeImports, listed_flatten, List.flatten_eq_flatMap, List.flatMap_assoc]
        simp only [listed_flatten, id_eq]

theorem mergeImports_append_self (groups : List Imports) :
    mergeImports (groups ++ groups) = mergeImports groups := by
  refine eq_of_keys_of_namesOf (nodup_keys_mergeImports _) ?_ fun k => ?_
  · rw [keys_mergeImports, keys_mergeImports, List.flatMap_append,
      eraseDups_append_of_subset (List.Subset.refl _)]
  · rw [namesOf_mergeImports, namesOf_mergeImports, List.flatten_append, listed_append,
      eraseDups_append_of_subset (List.Subset.refl _)]

/-- **Merging neither loses, repeats nor moves anything.**  Modules come in the order in which they
are first met, and for each the names that are listed for it anywhere, in the order in which they
are first met; groups may be merged in parts first, an empty group adds nothing, and what is merged
does not change when it is merged with itself. -/
theorem isFirstSeen_mergeImports (groups : List Imports) :
    IsFirstSeen (groups.flatMap keys) (keys (mergeImports groups)) ∧
      (∀ i ∈ mergeImports groups, IsFirstSeen (listed groups.flatten i.1) i.2) ∧
      (∀ parts : List (List Imports),
        mergeImports (parts.map mergeImports) = mergeImports parts.flatten) ∧
      (∀ more : List Imports, mergeImports (groups ++ [] :: more) = mergeImports (groups ++ more)) ∧
      mergeImports [mergeImports groups, mergeImports groups] = mergeImports groups := by
  refine ⟨isFirstSeen_iff.2 (keys_mergeImports groups), fun i hi => ?_, mergeImports_map,
    fun more => ?_, ?_⟩
  · rw [isFirstSeen_iff, ← namesOf_mergeImports, namesOf,
      get?_eq_some_of_mem (nodup_keys_mergeImports groups) hi, Option.getD_some]
  · simp only [mergeImports_eq_foldl, List.flatten_append, List.flatten_cons, List.nil_append]
  · calc mergeImports [mergeImports groups, mergeImports groups]
      _ = mergeImports ([groups, groups].map mergeImports) := rfl
      _ = mergeImports [groups, groups].flatten := mergeImports_map _
      _ = mergeImports groups := by
        rw [List.flatten_cons, List.flatten_singleton, mergeImports_append_self]

/-- The second group lists a known module again, and a module without a name. -/
theorem isFirstSeen_mergeImports_twice :
    let groups : List Imports := [[("a", ["X"])], [("b", ["Y"]), ("a", ["Z", "X"]), ("c", [])]]
    keys (mergeImports groups) = ["a", "b", "c"] ∧
      (("a", ["X", "Z"]) : Text × List Text) ∈ mergeImports groups ∧
      IsFirstSeen (listed groups.flatten "a") ["X", "Z"] := by
  intro groups
  have hmem : (("a", ["X", "Z"]) : Text × List Text) ∈ mergeImports groups := by decide +kernel
  exact ⟨by decide +kernel, hmem, (isFirstSeen_mergeImports groups).2.1 _ hmem⟩

end ValidatorGen.Emit
