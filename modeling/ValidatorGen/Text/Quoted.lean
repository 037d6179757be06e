import ValidatorGen.Text.CodePoint

/-!
# String literals

A literal is written between quotes with a backslash before every backslash and every quote of its
own kind; all other characters stand for themselves.
-/

namespace ValidatorGen.Text

/-- How a code point appears between quotes `q`. -/
def escapeOne (q c : CodePoint) : Text := if c = '\\' ∨ c = q then ['\\', c] else [c]

/-- The content of a literal between quotes `q`. -/
def escapeFor (q : CodePoint) (s : Text) : Text := s.flatMap (escapeOne q)

@[simp] theorem escapeFor_nil (q : CodePoint) : escapeFor q [] = [] := rfl

theorem escapeFor_cons (q c : CodePoint) (s : Text) :
    escapeFor q (c :: s) = escapeOne q c ++ escapeFor q s := by
  simp [escapeFor]

theorem escapeFor_append (q : CodePoint) (s t : Text) :
    escapeFor q (s ++ t) = escapeFor q s ++ escapeFor q t := by
  simp [escapeFor]

/-- The content of a double-quoted literal. -/
def escapeDouble (s : Text) : Text := escapeFor '"' s

/-- A double-quoted literal. -/
def quoteDouble (s : Text) : Text := "\"" ++ escapeDouble s ++ "\""

/-- A single-quoted literal. -/
def quoteSingle (s : Text) : Text := "'" ++ escapeFor '\'' s ++ "'"

end ValidatorGen.Text
