import ValidatorGen.Text.CodePoint

/-!
# Cutting a text at a separator

`splitOn` gives the pieces between the separators, so one more piece than there are separators;
`replace` puts another text in place of every occurrence, from left to right.
-/

namespace ValidatorGen.Text

/-- The pieces between the occurrences of a character. -/
def splitOn (sep : CodePoint) : Text → List Text
  | [] => [[]]
  | c :: r =>
    if c = sep then [] :: splitOn sep r
    else match splitOn sep r with
      | [] => [[c]]
      | p :: ps => (c :: p) :: ps

/-- The rest behind a text that starts with `p`. -/
def dropStart? : Text → Text → Option Text
  | [], s => some s
  | _ :: _, [] => none
  | p :: ps, c :: s => if p = c then dropStart? ps s else none

theorem dropStart?_eq_some {p s r : Text} : dropStart? p s = some r ↔ s = p ++ r := by
  induction p generalizing s with
  | nil => simp [dropStart?, eq_comm]
  | cons a p ih =>
    cases s with
    | nil => simp [dropStart?]
    | cons c s => by_cases h : a = c <;> simp [dropStart?, h, ih, eq_comm]

/-- The text behind the first occurrence of `p`. -/
def behind? (p : Text) : Text → Option Text
  | [] => dropStart? p []
  | c :: s => match dropStart? p (c :: s) with
    | some r => some r
    | none => behind? p s

theorem length_lt_of_behind? {p s r : Text} (hp : p ≠ []) (h : behind? p s = some r) :
    r.length < s.length := by
  have hpos := List.length_pos_iff.2 hp
  induction s with
  | nil =>
    rw [behind?, dropStart?_eq_some] at h
    exact absurd (List.append_eq_nil_iff.1 h.symm).1 hp
  | cons c s ih =>
    rw [behind?] at h
    split at h
    · rename_i u hu
      have := congrArg List.length (dropStart?_eq_some.1 hu)
      cases h
      simp at this ⊢
      omega
    · have := ih h
      simp
      omega

/-- Puts `new` in place of the occurrences of `a :: old`. -/
def replace (a : CodePoint) (old new : Text) (s : Text) : Text :=
  match s with
  | [] => []
  | c :: r =>
    if c = a then
      match h : dropStart? old r with
      | none => c :: replace a old new r
      | some u =>
        have : u.length ≤ r.length := by
          simp [dropStart?_eq_some.1 h]
        new ++ replace a old new u
    else c :: replace a old new r
termination_by s.length

theorem splitOn_ne_nil (sep : CodePoint) (s : Text) : splitOn sep s ≠ [] := by
  cases s with
  | nil => simp [splitOn]
  | cons c r =>
    unfold splitOn
    repeat' split
    all_goals simp

end ValidatorGen.Text
