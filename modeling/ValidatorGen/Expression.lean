import ValidatorGen.Text.CodePoint

/-!
# Validator expressions

An expression is a base and a chain of modifiers, `z.string().max(255).nullish()`.  No modifier is
empty and none occurs twice.
-/

namespace ValidatorGen

/-- A base and the modifiers behind it. -/
structure Expression where
  base : Text
  modifiers : List Text := []
  deriving DecidableEq, Repr

namespace Expression

/-- The tokens without the empty ones, each at its first occurrence only. -/
def distinct (tokens : List Text) : List Text := (tokens.filter (!·.isEmpty)).eraseDups

/-- An expression from a list of tokens. -/
def build (base : Text) (tokens : List Text) : Expression := ⟨base, distinct tokens⟩

/-- The expression as source text. -/
def render (e : Expression) : Text :=
  if e.modifiers.isEmpty then e.base else e.base ++ "." ++ Text.join "." e.modifiers

end Expression

end ValidatorGen
