import ValidatorGen.Text.Blank
import ValidatorGen.Text.Numeral
import ValidatorGen.Text.Split

/-!
# Native column types

`VarChar(255)` names a column type of the database: a tag and its parameters.  The tag is read as
a whole identifier that starts with an ASCII letter; what follows the closing bracket is ignored.
-/

namespace ValidatorGen.Native

/-- A column type: a tag and its parameters. -/
structure Tag where
  name : Text
  params : List Text := []
  deriving DecidableEq, Repr

/-- What stands between an opening bracket, blanks in front allowed, and the next closing one. -/
def bracketed? (s : Text) : Option Text :=
  match Text.trimStart s with
  | .char '(' :: r => if r.contains ')' then some (r.takeWhile (!·.is ')')) else none
  | _ => none

/-- The parameters of a list, separated by commas; a blank list has none. -/
def paramsOf (s : Text) : List Text :=
  if s.all Text.isBlank then []
  else (Text.splitOn ',' s).map Text.trim

/-- The column type that a text starts with. -/
def Tag.ofText? (text : Text) : Option Tag :=
  let s := Text.trimStart text
  match s with
  | c :: _ =>
    if c.isAlpha then
      some ⟨s.takeWhile Text.isWord,
        ((bracketed? (s.dropWhile Text.isWord)).map paramsOf).getD []⟩
    else none
  | [] => none

end ValidatorGen.Native
