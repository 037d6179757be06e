import ValidatorGen.Disk.Tree
import ValidatorGen.Proofs.Ordered

/-!
# Laws of trees

* `get?_set_self`, `set_set`, `set_get?` — a node that is put at a place is found there, replaces
  what was put there before, and makes no difference if it was there;
* `set_append`, `remove_append` — to change a place below another one is to change the node there;
* `kindAt?_set` — no place outside of a node that is put becomes anything else.
-/

namespace ValidatorGen.Node

/-- What can be seen of a node from outside. -/
inductive Kind
  | folder
  | file (content : List UInt8)
  deriving DecidableEq, Repr

def kind : Node → Kind
  | folder _ => .folder
  | file c => .file c

/-- What is at a place. -/
def kindAt? (n : Node) (place : List Text) : Option Kind := (n.get? place).map kind

variable {n m new : Node} {a : Text} {p q s t : List Text} {es : List (Text × Node)}

/-! ## Getting and setting -/

theorem get?_cons_folder (es : List (Text × Node)) (a : Text) (p : List Text) :
    (folder es).get? (a :: p) = (Ordered.get? a es).bind (·.get? p) := rfl

/-- There is a folder at the start of a way that leads somewhere. -/
theorem exists_folder_of_get?_cons (h : n.get? (a :: p) = some m) :
    ∃ es m', n = folder es ∧ Ordered.get? a es = some m' ∧ m'.get? p = some m := by
  cases n with
  | file c => cases h
  | folder es =>
    rw [get?_cons_folder] at h
    obtain ⟨m', hm', h⟩ := Option.bind_eq_some_iff.1 h
    exact ⟨es, m', rfl, hm', h⟩

theorem set_cons_of_get? {m' : Node} (h : Ordered.get? a es = some m') (new : Node)
    (p : List Text) : (folder es).set new (a :: p) = folder (Ordered.put a (m'.set new p) es) := by
  rw [set]
  exact h

theorem set_singleton (es : List (Text × Node)) (new : Node) (a : Text) :
    (folder es).set new [a] = folder (Ordered.put a new es) := by
  cases h : Ordered.get? a es with
  | some m => rw [set_cons_of_get? h, set]
  | none =>
    unfold set
    simp only [h]
    exact congrArg folder (Ordered.put_of_not_mem (Ordered.get?_eq_none_iff.1 h) new).symm

theorem remove_singleton (es : List (Text × Node)) (a : Text) :
    (folder es).remove [a] = folder (Ordered.erase a es) := rfl

theorem get?_set_self (h : n.get? q = some m) (new : Node) : (n.set new q).get? q = some new := by
  induction q generalizing n with
  | nil => rfl
  | cons b q ih =>
    obtain ⟨es, m', rfl, hb, hq⟩ := exists_folder_of_get?_cons h
    rw [set_cons_of_get? hb, get?_cons_folder, Ordered.get?_put_self]
    exact ih hq

theorem set_set (h : n.get? q = some m) (x y : Node) : (n.set x q).set y q = n.set y q := by
  induction q generalizing n with
  | nil => rfl
  | cons b q ih =>
    obtain ⟨es, m', rfl, hb, hq⟩ := exists_folder_of_get?_cons h
    rw [set_cons_of_get? hb, set_cons_of_get? (Ordered.get?_put_self _ _ _), set_cons_of_get? hb,
      Ordered.put_put, ih hq]

theorem set_get? (h : n.get? q = some m) : n.set m q = n := by
  induction q generalizing n with
  | nil =>
    cases h
    rfl
  | cons b q ih =>
    obtain ⟨es, m', rfl, hb, hq⟩ := exists_folder_of_get?_cons h
    rw [set_cons_of_get? hb, ih hq, Ordered.put_of_get? hb]

theorem set_append (h : n.get? q = some m) (new : Node) (t : List Text) :
    n.set new (q ++ t) = n.set (m.set new t) q := by
  induction q generalizing n with
  | nil =>
    cases h
    rfl
  | cons b q ih =>
    obtain ⟨es, m', rfl, hb, hq⟩ := exists_folder_of_get?_cons h
    rw [List.cons_append, set_cons_of_get? hb, set_cons_of_get? hb, ih hq]

theorem remove_append (h : n.get? q = some m) (ht : t ≠ []) :
    n.remove (q ++ t) = n.set (m.remove t) q := by
  induction q generalizing n with
  | nil =>
    cases h
    rfl
  | cons b q ih =>
    obtain ⟨es, m', rfl, hb, hq⟩ := exists_folder_of_get?_cons h
    obtain ⟨c, r, hr⟩ := List.exists_cons_of_ne_nil (List.append_ne_nil_of_right_ne_nil q ht)
    rw [List.cons_append, set_cons_of_get? hb, ← ih hq, hr, remove]
    simp only [hb]

/-! ## In a folder -/

section

variable (h : n.get? q = some (folder es))
include h

theorem set_entry (new : Node) (a : Text) :
    n.set new (q ++ [a]) = n.set (folder (Ordered.put a new es)) q := by
  rw [set_append h, set_singleton]

theorem remove_entry (a : Text) : n.remove (q ++ [a]) = n.set (folder (Ordered.erase a es)) q := by
  rw [remove_append h (List.cons_ne_nil a []), remove_singleton]

theorem get?_entry (a : Text) : n.get? (q ++ [a]) = Ordered.get? a es := by
  rw [get?_append, h]
  show (Ordered.get? a es).bind some = _
  exact Option.bind_fun_some _

/-- A new entry that is removed again leaves no trace. -/
theorem remove_set_entry {a : Text} (ha : a ∉ Ordered.keys es) (new : Node) :
    (n.set new (q ++ [a])).remove (q ++ [a]) = n := by
  rw [set_entry h, remove_entry (get?_set_self h _), Ordered.erase_put ha, set_set h, set_get? h]

end

/-! ## Other places -/

theorem kindAt?_append (n : Node) (p q : List Text) :
    n.kindAt? (p ++ q) = (n.get? p).bind (·.kindAt? q) := by
  unfold kindAt?
  rw [get?_append, Option.map_bind]
  rfl

/-- No place outside of a node that is put becomes anything else; the folders on the way to it
stay folders. -/
theorem kindAt?_set (h : n.get? q = some m) (hs : ¬ q <+: s) (new : Node) :
    (n.set new q).kindAt? s = n.kindAt? s := by
  induction q generalizing n s with
  | nil => exact absurd (List.nil_prefix) hs
  | cons b q ih =>
    obtain ⟨es, m', rfl, hb, hq⟩ := exists_folder_of_get?_cons h
    rw [set_cons_of_get? hb]
    cases s with
    | nil => rfl
    | cons c s =>
      unfold kindAt?
      rw [get?_cons_folder, get?_cons_folder]
      by_cases hc : b = c
      · subst hc
        have hs' : ¬ q <+: s := fun hp => hs ((List.prefix_cons_inj b).2 hp)
        rw [Ordered.get?_put_self, hb]
        exact ih hq hs'
      · rw [Ordered.get?_put_of_ne hc]

theorem kindAt?_cons_folder (es : List (Text × Node)) (a : Text) (p : List Text) :
    (folder es).kindAt? (a :: p) = (Ordered.get? a es).bind (·.kindAt? p) := by
  unfold kindAt?
  rw [get?_cons_folder, Option.map_bind]
  rfl

/-- Nor does an entry that is put become anything but itself. -/
theorem kindAt?_set_entry (h : n.get? q = some (folder es)) (hs : ¬ q ++ [a] <+: s) (new : Node) :
    (n.set new (q ++ [a])).kindAt? s = n.kindAt? s := by
  rw [set_entry h]
  by_cases hqs : q <+: s
  · obtain ⟨t, rfl⟩ := hqs
    rw [kindAt?_append, kindAt?_append, get?_set_self h, h]
    cases t with
    | nil => rfl
    | cons b t =>
      have hab : a ≠ b := by
        rintro rfl
        exact hs ⟨t, by rw [List.append_assoc]; rfl⟩
      show (folder _).kindAt? (b :: t) = (folder es).kindAt? (b :: t)
      rw [kindAt?_cons_folder, kindAt?_cons_folder, Ordered.get?_put_of_ne hab]
  · exact kindAt?_set h hqs _

theorem way_get? (q : List Text) : (way q).get? q = some (folder []) := by
  induction q with
  | nil => rfl
  | cons a q ih =>
    rw [way, get?_cons_folder, Ordered.get?_cons, if_pos (beq_self_eq_true a)]
    exact ih

end ValidatorGen.Node
