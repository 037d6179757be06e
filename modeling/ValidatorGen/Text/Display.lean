import ValidatorGen.Text.Printable

/-!
# Showing a text

A text is shown between single quotes, or between double quotes if it holds a single quote and no
double one.  The quote, the backslash and what cannot be printed are written as escapes, and so
are halves of surrogate pairs.
-/

namespace ValidatorGen.Text

/-- The lower-case hexadecimal digits of a number, padded with zeros to a width. -/
def hex (width n : Nat) : Text :=
  let ds := digitsIn 16 n
  Text.repeated (width - ds.length) '0' ++ ds

/-- How a character appears between quotes `q`. -/
def displayChar (q c : CodePoint) : Text :=
  if c = '\\' ∨ c = q then ['\\', c]
  else if c = '\n' then ['\\', 'n']
  else if c = '\r' then ['\\', 'r']
  else if c = '\t' then ['\\', 't']
  else if isPrintable c then [c]
  else if c.toNat < 0x100 then '\\' :: 'x' :: hex 2 c.toNat
  else if c.toNat < 0x10000 then '\\' :: 'u' :: hex 4 c.toNat
  else '\\' :: 'U' :: hex 8 c.toNat

/-- The text between quotes, on one line. -/
def display (s : Text) : Text :=
  let q : CodePoint := if s.contains '\'' && !s.contains '"' then '"' else '\''
  q :: s.flatMap (displayChar q) ++ [q]

end ValidatorGen.Text
