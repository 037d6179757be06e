/-!
# Association lists in insertion order

A mapping whose order is that of the first appearance of each key: a new key goes to the end, a
known one keeps its place and takes the new value.
-/

namespace ValidatorGen.Ordered

universe u v

variable {κ : Type u} {α : Type v}

/-- Sets the value of `k`, where `same` tells whether two keys are one. -/
def putBy (same : κ → κ → Bool) (k : κ) (v : α) : List (κ × α) → List (κ × α)
  | [] => [(k, v)]
  | (k', v') :: r => if same k' k then (k', v) :: r else (k', v') :: putBy same k v r

def keys (m : List (κ × α)) : List κ := m.map Prod.fst

@[simp] theorem keys_nil : keys ([] : List (κ × α)) = [] := rfl

@[simp] theorem keys_cons (e : κ × α) (m : List (κ × α)) : keys (e :: m) = e.1 :: keys m := rfl

variable [BEq κ]

/-- Sets the value of `k`. -/
def put (k : κ) (v : α) (m : List (κ × α)) : List (κ × α) := putBy (· == ·) k v m

/-- The value of `k`. -/
def get? (k : κ) : List (κ × α) → Option α
  | [] => none
  | (k', v) :: r => if k' == k then some v else get? k r

/-- Removes `k`. -/
def erase (k : κ) (m : List (κ × α)) : List (κ × α) := m.filter fun e => !(e.1 == k)

/-- Changes the value of `k`, which is `d` if there is none yet. -/
def modify (k : κ) (d : α) (f : α → α) (m : List (κ × α)) : List (κ × α) :=
  put k (f ((get? k m).getD d)) m

/-- Puts all entries of the second mapping over the first. -/
def merge (m n : List (κ × α)) : List (κ × α) := n.foldl (fun m e => put e.1 e.2 m) m

/-- The mapping that a list of entries describes, a later entry of a key winning. -/
def ofList (es : List (κ × α)) : List (κ × α) := merge [] es

theorem get?_cons (k : κ) (e : κ × α) (m : List (κ × α)) :
    get? k (e :: m) = if e.1 == k then some e.2 else get? k m := rfl

theorem put_cons (k : κ) (v : α) (e : κ × α) (m : List (κ × α)) :
    put k v (e :: m) = if e.1 == k then (e.1, v) :: m else e :: put k v m := rfl

variable [LawfulBEq κ]

theorem get?_put_self (k : κ) (v : α) (m : List (κ × α)) : get? k (put k v m) = some v := by
  induction m with
  | nil => simp [put, putBy, get?]
  | cons e m ih => by_cases h : e.1 = k <;> simp [put_cons, get?_cons, h, ih]

theorem get?_put_of_ne {k k' : κ} (h : k ≠ k') (v : α) (m : List (κ × α)) :
    get? k' (put k v m) = get? k' m := by
  induction m with
  | nil => simp [put, putBy, get?, h]
  | cons e m ih =>
    by_cases he : e.1 = k
    · simp [put_cons, get?_cons, he, h]
    · simp [put_cons, get?_cons, he, ih]

theorem keys_put (k : κ) (v : α) (m : List (κ × α)) :
    keys (put k v m) = if k ∈ keys m then keys m else keys m ++ [k] := by
  induction m with
  | nil => simp [put, putBy, keys]
  | cons e m ih =>
    by_cases h : e.1 = k
    · subst h
      simp [put_cons]
    · have h' : ¬ k = e.1 := fun e' => h e'.symm
      by_cases hk : k ∈ keys m <;> simp [put_cons, h, h', hk, ih]

end ValidatorGen.Ordered
