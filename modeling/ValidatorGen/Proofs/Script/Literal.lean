import Mathlib.Tactic.Common
import ValidatorGen.Text.Quoted

/-!
# Reading string literals

How ECMAScript reads a string literal: up to the next bare quote of its own kind, a backslash
changes what the character behind it means, and a line feed or a carriage return may not stand in
it.  Escapes by number and lines continued behind a backslash are not read.

* `literal?_quoted` — what is written between quotes is read again;
* `literal?_eq_none` — unless it holds the end of a line, or the quote at its end is missing.
-/

namespace ValidatorGen.Script

/-- A character that may not stand in a literal by itself. -/
def endsLine (c : CodePoint) : Bool := c = '\n' || c = '\r'

/-- What a character means behind a backslash. -/
def escaped? (c : CodePoint) : Option CodePoint :=
  if c = 'n' then some '\n'
  else if c = 'r' then some '\r'
  else if c = 't' then some '\t'
  else if c = 'b' then some '\x08'
  else if c = 'v' then some '\x0b'
  else if c = 'f' then some '\x0c'
  else if c = 'x' ∨ c = 'u' ∨ c.isDigit ∨ endsLine c ∨ c = '\u2028' ∨ c = '\u2029' then none
  else some c

/-- Behind an opening quote `q`: the value of the literal, and the text behind it. -/
def literalRest (q : CodePoint) : Text → Option (Text × Text)
  | [] => none
  | c :: r =>
    if c = q then some ([], r)
    else if endsLine c then none
    else if c = '\\' then
      match r with
      | [] => none
      | d :: r => (escaped? d).bind fun v => (literalRest q r).map fun x => (v :: x.1, x.2)
    else (literalRest q r).map fun x => (c :: x.1, x.2)

theorem literalRest_cons (q c : CodePoint) (r : Text) :
    literalRest q (c :: r) =
      if c = q then some ([], r)
      else if endsLine c then none
      else if c = '\\' then
        match r with
        | [] => none
        | d :: r => (escaped? d).bind fun v => (literalRest q r).map fun x => (v :: x.1, x.2)
      else (literalRest q r).map fun x => (c :: x.1, x.2) := by
  rw [literalRest.eq_def]
  rfl

/-- A quote that literals are written with. -/
def IsQuote (q : CodePoint) : Prop := q = '\'' ∨ q = '"'

instance (q : CodePoint) : Decidable (IsQuote q) :=
  inferInstanceAs (Decidable (q = '\'' ∨ q = '"'))

/-- The literal that a text starts with: its value, and the text behind it. -/
def literal? : Text → Option (Text × Text)
  | [] => none
  | c :: r => if IsQuote c then literalRest c r else none

section

variable {q : CodePoint} (hq : IsQuote q)

include hq

theorem escaped?_of_isQuote : escaped? q = some q := by
  rcases hq with rfl | rfl <;> rfl

theorem literalRest_escapeOne {c : CodePoint} (h : endsLine c = false) (r : Text) :
    literalRest q (Text.escapeOne q c ++ r) = (literalRest q r).map fun x => (c :: x.1, x.2) := by
  have hb : '\\' ≠ q := by
    rcases hq with rfl | rfl <;> decide
  unfold Text.escapeOne
  split_ifs with hc
  · have he : escaped? c = some c := by
      rcases hc with rfl | rfl
      · rfl
      · exact escaped?_of_isQuote hq
    show literalRest q ('\\' :: c :: r) = _
    rw [literalRest_cons, if_neg hb, if_neg (by decide), if_pos rfl]
    dsimp only
    rw [he, Option.bind_some]
  · obtain ⟨h1, h2⟩ := not_or.1 hc
    show literalRest q (c :: r) = _
    rw [literalRest_cons, if_neg h2, if_neg (by simp [h]), if_neg h1]

/-- Escaped text stands for itself. -/
theorem literalRest_escapeFor {s : Text} (h : s.any endsLine = false) (r : Text) :
    literalRest q (Text.escapeFor q s ++ r)
      = (literalRest q r).map fun x => (s ++ x.1, x.2) := by
  induction s with
  | nil => simp
  | cons c s ih =>
    rw [List.any_cons, Bool.or_eq_false_iff] at h
    rw [Text.escapeFor_cons, List.append_assoc, literalRest_escapeOne hq h.1, ih h.2]
    cases literalRest q r <;> rfl

theorem literal?_quoted {s : Text} (h : s.any endsLine = false) (r : Text) :
    literal? (q :: (Text.escapeFor q s ++ q :: r)) = some (s, r) := by
  rw [literal?, if_pos hq, literalRest_escapeFor hq h, literalRest_cons, if_pos rfl]
  simp

/-- A literal does not go on behind the end of a line. -/
theorem literal?_eq_none {s : Text} (h : s.any endsLine = false) {r : Text}
    (hr : r = [] ∨ ∃ c t, r = c :: t ∧ endsLine c = true) :
    literal? (q :: (Text.escapeFor q s ++ r)) = none := by
  rw [literal?, if_pos hq, literalRest_escapeFor hq h]
  rcases hr with rfl | ⟨c, t, rfl, hc⟩
  · rfl
  · have hcq : c ≠ q := by
      rintro rfl
      rcases hq with rfl | rfl <;> exact absurd hc (by decide)
    rw [literalRest_cons, if_neg hcq, if_pos hc]
    rfl

end

end ValidatorGen.Script
