import ValidatorGen.Directive.Literal
import ValidatorGen.Text.Blank

/-!
# The closing bracket of a call

`close?` finds the bracket that closes a call.  Brackets of all three kinds count alike; literals
are skipped, so what stands in them does not count.  A slash opens a regular-expression literal
where an operand may start and is a division elsewhere.
-/

namespace ValidatorGen.Directive

def isOpener (c : CodePoint) : Bool := c = '(' || c = '[' || c = '{'

def isCloser (c : CodePoint) : Bool := c = ')' || c = ']' || c = '}'

def isQuote (c : CodePoint) : Bool := c = '"' || c = '\'' || c = '`'

/-- The characters behind which an operand may start. -/
def beforeOperand (c : CodePoint) : Bool :=
  isOpener c || c = ',' || c = '=' || c = ':' || c = '!' || c = '&' || c = '|' || c = '?'
    || c = ';' || c = '>'

/-- Splits the text behind the bracket that closes the last but `depth` of the open ones; `before`
is the last character in front that is not blank. -/
def close? (depth : Nat) (before : CodePoint) : Text → Option (Text × Text)
  | [] => none
  | c :: r =>
    if isQuote c then
      (close? depth c (spanQuoted c r).2).map fun p => (c :: (spanQuoted c r).1 ++ p.1, p.2)
    else if c = '/' ∧ beforeOperand before then
      (close? depth c (spanRegex false r).2).map fun p => (c :: (spanRegex false r).1 ++ p.1, p.2)
    else if isOpener c then
      (close? (depth + 1) c r).map fun p => (c :: p.1, p.2)
    else if isCloser c then
      match depth with
      | 0 => some ([c], r)
      | d + 1 => (close? d c r).map fun p => (c :: p.1, p.2)
    else
      (close? depth (if Text.isBlank c then before else c) r).map fun p => (c :: p.1, p.2)
termination_by s => s.length
decreasing_by
  all_goals simp only [List.length_cons]
  · have := length_spanQuoted_le c r
    omega
  · have := length_spanRegex_le false r
    omega
  all_goals omega

theorem close?_append {depth : Nat} {before : CodePoint} {s t u : Text}
    (h : close? depth before s = some (t, u)) : t ++ u = s := by
  fun_induction close? depth before s generalizing t u with
  | case1 => simp at h
  | case2 d b c r hc ih =>
    simp only [Option.map_eq_some_iff, Prod.mk.injEq] at h
    obtain ⟨⟨x, y⟩, hp, rfl, rfl⟩ := h
    simp [ih hp, spanQuoted_append]
  | case3 d b c r hc hs ih =>
    simp only [Option.map_eq_some_iff, Prod.mk.injEq] at h
    obtain ⟨⟨x, y⟩, hp, rfl, rfl⟩ := h
    simp [ih hp, spanRegex_append]
  | case5 =>
    simp only [Option.some.injEq, Prod.mk.injEq] at h
    simp [← h.1, ← h.2]
  | case4 d b c r _ _ _ ih | case6 b c r _ _ _ _ d ih | case7 d b c r _ _ _ _ ih =>
    simp only [Option.map_eq_some_iff, Prod.mk.injEq] at h
    obtain ⟨⟨x, y⟩, hp, rfl, rfl⟩ := h
    simp [ih hp]

theorem close?_length_lt {depth : Nat} {before : CodePoint} {s t u : Text}
    (h : close? depth before s = some (t, u)) : u.length < s.length := by
  have hs := close?_append h
  suffices t ≠ [] by
    subst hs
    have := List.length_pos_iff.2 this
    simp
    omega
  rintro rfl
  unfold close? at h
  split at h <;> simp_all
  repeat' split at h
  all_goals simp_all

end ValidatorGen.Directive
