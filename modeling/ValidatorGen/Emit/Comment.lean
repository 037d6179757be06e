import ValidatorGen.Text.Blank
import ValidatorGen.Text.Split

/-!
# Comments and indentation of generated code
-/

namespace ValidatorGen.Emit

/-- Puts `unit` in front of every line `level` times; a blank line stays as it is. -/
def indentLines (level : Nat) (unit : Text) (lines : List Text) : List Text :=
  let margin := (List.replicate level unit).flatten
  lines.map fun l => if Text.isBlankText l then l else margin ++ l

/-- The usual indentation, one level of two spaces. -/
def indent (lines : List Text) : List Text := indentLines 1 "  " lines

/-- A line of a block comment.  A `*/` in it gets a backslash, so that it does not end the
comment. -/
def commentLine (line : Text) : Text :=
  Text.trimEnd (" * " ++ Text.replace '*' "/" "*\\/" line)

/-- A block comment; without lines there is none. -/
def commentBlock (lines : List Text) : List Text :=
  if lines.isEmpty then [] else "/**" :: (lines.map commentLine).concat " */"

end ValidatorGen.Emit
