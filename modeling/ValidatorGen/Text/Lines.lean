import ValidatorGen.Text.CodePoint

/-!
# Lines

A text is cut into lines at every line boundary; `\r\n` is one boundary, and a boundary at the end
of the text opens no further line.  `unixNewlines` is how text files are read: `\r\n` and `\r`
become `\n`.
-/

namespace ValidatorGen.Text

/-- A character that ends a line. -/
def isBoundary (c : CodePoint) : Bool :=
  let n := c.toNat
  (0x0A ≤ n && n ≤ 0x0D) || (0x1C ≤ n && n ≤ 0x1E) || n == 0x85 || n == 0x2028 || n == 0x2029

/-- The lines of a text, without their boundaries. -/
def lines : Text → List Text
  | [] => []
  | .char '\r' :: .char '\n' :: r => [] :: lines r
  | c :: r =>
    if isBoundary c then [] :: lines r
    else match lines r with
      | [] => [[c]]
      | l :: ls => (c :: l) :: ls

/-- Carriage returns, alone or before a line feed, become line feeds. -/
def unixNewlines : Text → Text
  | [] => []
  | .char '\r' :: .char '\n' :: r => '\n' :: unixNewlines r
  | c :: r => (if c = '\r' then '\n' else c) :: unixNewlines r

/-- How many lines a file of this content has: an unfinished last line counts. -/
def countLines (s : Text) : Nat :=
  if s.isEmpty then 0
  else s.count (.char '\n') + (if s.getLast? = some '\n' then 0 else 1)

end ValidatorGen.Text
