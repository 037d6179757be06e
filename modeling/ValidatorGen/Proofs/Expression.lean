import Mathlib.Data.List.Nodup
import Mathlib.Data.List.Infix
import ValidatorGen.Expression
import ValidatorGen.Proofs.FirstSeen
import ValidatorGen.Proofs.Text

/-!
# Chains and their tokens

A validator is its base with its modifiers behind it, each behind a dot.  `Expression.distinct` goes
through a list of tokens from the left and keeps what it has not met yet.

* `render_eq` — the text of a validator;
* `isFirstSeen_distinct` — what is kept, and in which order;
* `distinct_append`, `distinct_append_filter`, `distinct_append_cons` — what a list adds to the one
  in front of it;
* `distinct_append_of_subset` — tokens that come again may be left out;
* `sublist_distinct` — a token that is met first behind another one stays behind it;
* `getLast?_distinct` — a token stays the last one if nothing behind it is new.
-/

namespace ValidatorGen.Expression

/-! ## Chains -/

/-- The links of a chain, each behind a dot. -/
def chainText (links : List Text) : Text := links.flatMap fun t => "." ++ t

theorem dot_join (t : Text) (ts : List Text) :
    ("." : Text) ++ Text.join "." (t :: ts) = chainText (t :: ts) := by
  rw [Text.join_cons, ← List.append_assoc]
  rfl

theorem render_eq (e : Expression) : e.render = e.base ++ chainText e.modifiers := by
  unfold Expression.render
  cases e.modifiers with
  | nil => simp [chainText]
  | cons t ts =>
    rw [List.isEmpty_cons, if_neg Bool.false_ne_true, List.append_assoc, dot_join]

theorem chainText_cons (t : Text) (ts : List Text) :
    chainText (t :: ts) = "." ++ (t ++ chainText ts) := by
  rw [← List.append_assoc]
  rfl

/-! ## Tokens at their first occurrence -/

theorem isFirstSeen_distinct (ts : List Text) :
    IsFirstSeen (ts.filter (!·.isEmpty)) (distinct ts) :=
  isFirstSeen_eraseDups _

theorem mem_distinct {ts : List Text} {t : Text} : t ∈ distinct ts ↔ t ∈ ts ∧ t ≠ [] := by
  simp [distinct]

theorem distinct_cons {t : Text} (ht : t ≠ []) (ts : List Text) :
    distinct (t :: ts) = t :: distinct (ts.filter fun u => !u == t) := by
  have hf : (t :: ts).filter (!·.isEmpty) = t :: ts.filter (!·.isEmpty) := by simp [ht]
  unfold distinct
  rw [hf, List.eraseDups_cons, List.filter_filter, List.filter_filter]
  exact congrArg (t :: List.eraseDups ·)
    (List.filter_congr fun u _ => Bool.and_comm _ _)

theorem distinct_append (s t : List Text) :
    distinct (s ++ t) = distinct s ++ distinct (t.removeAll s) := by
  unfold distinct
  rw [List.filter_append, List.eraseDups_append]
  congr 2
  simp only [List.removeAll, List.filter_filter]
  refine List.filter_congr fun u _ => ?_
  cases u <;> simp

theorem distinct_append_filter (s t : List Text) :
    distinct (s ++ t) = distinct s ++ (distinct t).filter (· ∉ distinct s) := by
  rw [distinct_append, List.append_cancel_left_eq]
  unfold distinct
  rw [← eraseDups_filter, List.removeAll, List.filter_filter, List.filter_filter]
  congr 1
  refine List.filter_congr fun x _ => ?_
  cases x <;> simp

/-- A list that has only tokens of the one in front of it adds nothing. -/
theorem distinct_append_of_subset {s t : List Text} (h : t ⊆ s) (u : List Text) :
    distinct (s ++ t ++ u) = distinct (s ++ u) := by
  unfold distinct
  rw [List.filter_append, List.filter_append, List.filter_append]
  exact eraseDups_append_congr (eraseDups_append_of_subset (List.filter_subset _ h)) _

theorem mem_removeAll {s t : List Text} {x : Text} : x ∈ t.removeAll s ↔ x ∈ t ∧ x ∉ s := by
  simp [List.removeAll]

/-- A token that was not met yet ends one run of tokens and starts the next. -/
theorem distinct_append_cons {s : List Text} {x : Text} (hx : x ∉ s) (hx0 : x ≠ [])
    (t : List Text) :
    distinct (s ++ x :: t) = distinct s ++ x :: distinct (t.removeAll (x :: s)) := by
  have hcons : (x :: t).removeAll s = x :: t.removeAll s := by simp [List.removeAll, hx]
  have hrest : (t.removeAll s).filter (fun u => !u == x) = t.removeAll (x :: s) := by
    unfold List.removeAll
    rw [List.filter_filter]
    refine List.filter_congr fun u _ => ?_
    rw [List.elem_cons]
    cases u == x <;> simp
  rw [distinct_append, hcons, distinct_cons hx0, hrest]

theorem nodup_eraseDups (ts : List Text) : ts.eraseDups.Nodup := (isFirstSeen_eraseDups ts).nodup

theorem nodup_distinct (ts : List Text) : (distinct ts).Nodup := nodup_eraseDups _

/-- A token that is met first behind another one stays behind it. -/
theorem sublist_distinct {s t : List Text} {x y : Text} (hx : x ∈ s) (hy : y ∈ t) (hys : y ∉ s)
    (hx0 : x ≠ []) (hy0 : y ≠ []) : [x, y].Sublist (distinct (s ++ t)) := by
  rw [distinct_append]
  exact (List.singleton_sublist.2 (mem_distinct.2 ⟨hx, hx0⟩)).append
    (List.singleton_sublist.2 (mem_distinct.2 ⟨mem_removeAll.2 ⟨hy, hys⟩, hy0⟩))

theorem distinct_eq_nil_iff {ts : List Text} : distinct ts = [] ↔ ∀ t ∈ ts, t = [] := by
  constructor
  · intro h t ht
    by_contra h0
    exact absurd (mem_distinct.2 ⟨ht, h0⟩) (by simp [h])
  · intro h
    refine List.eq_nil_iff_forall_not_mem.2 fun t ht => ?_
    exact (mem_distinct.1 ht).2 (h t (mem_distinct.1 ht).1)

/-- A token at the end is lost exactly if it was met before. -/
theorem distinct_concat_eq_iff {s : List Text} {x : Text} (hx0 : x ≠ []) :
    distinct (s ++ [x]) = distinct s ↔ x ∈ s := by
  rw [distinct_append, List.append_right_eq_self, distinct_eq_nil_iff]
  constructor
  · intro h
    by_contra hx
    exact hx0 (h x (mem_removeAll.2 ⟨List.mem_singleton_self x, hx⟩))
  · intro hx y hy
    obtain ⟨hy, hys⟩ := mem_removeAll.1 hy
    exact absurd (List.mem_singleton.1 hy ▸ hx) hys

/-- A token is the last one if everything behind it is empty or was met before. -/
theorem getLast?_distinct {s t : List Text} {x : Text} (hx : x ∉ s) (hx0 : x ≠ []) :
    (distinct (s ++ x :: t)).getLast? = some x ↔ ∀ y ∈ t, y = [] ∨ y = x ∨ y ∈ s := by
  have hlast : (distinct (s ++ x :: t)).getLast? = some x ↔
      distinct (t.removeAll (x :: s)) = [] := by
    rw [distinct_append_cons hx hx0, List.getLast?_append_of_ne_nil _ (List.cons_ne_nil _ _)]
    constructor
    · intro h
      by_contra h0
      rw [List.getLast?_cons_of_ne_nil h0] at h
      have hm := (mem_distinct.1 (List.mem_of_getLast? h)).1
      exact (mem_removeAll.1 hm).2 List.mem_cons_self
    · intro h
      rw [h]
      rfl
  rw [hlast, distinct_eq_nil_iff]
  constructor
  · intro h y hy
    by_cases hys : y ∈ x :: s
    · exact .inr (List.mem_cons.1 hys)
    · exact .inl (h y (mem_removeAll.2 ⟨hy, hys⟩))
  · intro h y hy
    obtain ⟨hy, hys⟩ := mem_removeAll.1 hy
    exact (h y hy).resolve_right fun hm => hys (List.mem_cons.2 hm)

end ValidatorGen.Expression
