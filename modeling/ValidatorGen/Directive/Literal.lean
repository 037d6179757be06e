import ValidatorGen.Text.Letter

/-!
# Literals inside a call

A string literal runs to the next quote of its own kind, a regular-expression literal to the next
slash that is not in a character class, with its flags.  A backslash takes the next character with
it.  A literal without an end takes all of the text.  Both functions split the text behind the
opening character: `fst ++ snd` is that text.
-/

namespace ValidatorGen.Directive

/-- Splits behind the string literal that a quote `q` has opened. -/
def spanQuoted (q : CodePoint) : Text → Text × Text
  | [] => ([], [])
  | [.char '\\'] => (['\\'], [])
  | .char '\\' :: c :: r =>
    let p := spanQuoted q r
    ('\\' :: c :: p.1, p.2)
  | c :: r =>
    if c = q then ([c], r)
    else
      let p := spanQuoted q r
      (c :: p.1, p.2)

/-- Splits behind the regular-expression literal that a slash has opened; `inClass` tells whether
the text starts in a character class. -/
def spanRegex (inClass : Bool) : Text → Text × Text
  | [] => ([], [])
  | [.char '\\'] => (['\\'], [])
  | .char '\\' :: c :: r =>
    let p := spanRegex inClass r
    ('\\' :: c :: p.1, p.2)
  | c :: r =>
    if c = '/' ∧ inClass = false then
      (c :: r.takeWhile Text.isLetter, r.dropWhile Text.isLetter)
    else
      let p := spanRegex (c = '[' || (inClass && c != ']')) r
      (c :: p.1, p.2)

theorem spanQuoted_append (q : CodePoint) (s : Text) :
    (spanQuoted q s).1 ++ (spanQuoted q s).2 = s := by
  fun_induction spanQuoted q s <;> simp_all +zetaDelta

theorem spanRegex_append (b : Bool) (s : Text) :
    (spanRegex b s).1 ++ (spanRegex b s).2 = s := by
  fun_induction spanRegex b s <;> simp_all +zetaDelta

theorem length_spanQuoted_le (q : CodePoint) (s : Text) :
    (spanQuoted q s).2.length ≤ s.length := by
  have h := congrArg List.length (spanQuoted_append q s)
  simp at h
  omega

theorem length_spanRegex_le (b : Bool) (s : Text) :
    (spanRegex b s).2.length ≤ s.length := by
  have h := congrArg List.length (spanRegex_append b s)
  simp at h
  omega

end ValidatorGen.Directive
