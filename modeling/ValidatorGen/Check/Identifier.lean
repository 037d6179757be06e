import ValidatorGen.Text.Blank

/-!
# Identifiers and module specifiers

The patterns that names have to follow.  A pattern is matched against a text or, if the text ends
in a line feed, against what stands before it.
-/

namespace ValidatorGen.Check

def startsIdentifier (c : CodePoint) : Bool := c.isAlpha || c == '_' || c == '$'

def continuesIdentifier (c : CodePoint) : Bool := c.isAlphanum || c == '_' || c == '$'

/-- An ASCII letter, `_` or `$`, and more of these or digits. -/
def isIdentifier : Text → Bool
  | [] => false
  | c :: r => startsIdentifier c && r.all continuesIdentifier

/-- The text fits, or it does without a line feed at its end. -/
def fitsLine (fits : Text → Bool) (s : Text) : Bool :=
  fits s || (s.getLast? == some '\n' && fits s.dropLast)

/-- The name is accepted as an identifier. -/
def acceptsName (name : Text) : Bool := fitsLine isIdentifier name

/-- No blank, no quote and no backslash, and at least one character. -/
def isSpecifier (s : Text) : Bool :=
  !s.isEmpty && s.all fun c => !(Text.isBlank c || c == '\'' || c == '"' || c == '\\')

/-- The text is accepted as a module specifier. -/
def acceptsSpecifier (module : Text) : Bool := fitsLine isSpecifier module

end ValidatorGen.Check
