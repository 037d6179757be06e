import ValidatorGen.Text.Display

/-!
# JSON strings

A string between double quotes, with escapes for the quote, the backslash and the control
characters; all other characters stand for themselves.
-/

namespace ValidatorGen.Json

/-- How a character appears in a string. -/
def escapeChar (c : CodePoint) : Text :=
  if c = '"' ∨ c = '\\' then ['\\', c]
  else if c = '\n' then ['\\', 'n']
  else if c = '\r' then ['\\', 'r']
  else if c = '\t' then ['\\', 't']
  else if c = '\x08' then ['\\', 'b']
  else if c = '\x0c' then ['\\', 'f']
  else if c.toNat < 0x20 then '\\' :: 'u' :: Text.hex 4 c.toNat
  else [c]

/-- The written form of a string. -/
def quoted (s : Text) : Text := "\"" ++ s.flatMap escapeChar ++ "\""

end ValidatorGen.Json
