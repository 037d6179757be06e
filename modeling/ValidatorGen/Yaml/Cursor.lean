import ValidatorGen.Text.CodePoint

/-!
# A place in a text

A cursor is what is left of a text and where in the text that is: how many characters are left, how
many lie before, on which line and in which column.
-/

namespace ValidatorGen.Yaml

/-- A character that ends a line. -/
def isBreak (c : CodePoint) : Bool := c = '\n' || c = '\x85' || c = '\u2028' || c = '\u2029'

/-- What a line break is read as. -/
def breakChar (c : CodePoint) : CodePoint := if c = '\x85' then '\n' else c

def isGap (c : CodePoint) : Bool := c = ' ' || c = '\t'

/-- The end of the text, or a character that satisfies a test. -/
def atEndOr (p : CodePoint → Bool) : Option CodePoint → Bool
  | none => true
  | some c => p c

/-- What separates two tokens: the end, a line break, a blank or a tab. -/
def separates (c? : Option CodePoint) : Bool := atEndOr (fun c => isGap c || isBreak c) c?

/-- The end, a line break or a blank, but no tab. -/
def endsWord (c? : Option CodePoint) : Bool := atEndOr (fun c => c = ' ' || isBreak c) c?

/-- The end or a line break. -/
def endsLine (c? : Option CodePoint) : Bool := atEndOr isBreak c?

structure Cursor where
  rest : Text
  left : Nat := rest.length
  left_eq : left = rest.length := by rfl
  index : Nat := 0
  line : Nat := 0
  column : Nat := 0
  deriving Repr

namespace Cursor

def head? (c : Cursor) : Option CodePoint := c.rest.head?

/-- The place behind the next character; a byte order mark takes no column. -/
def next (c : Cursor) : Cursor :=
  match h : c.rest with
  | [] => c
  | ch :: r =>
    have left_eq : c.left - 1 = r.length := by simp [c.left_eq, h]
    if isBreak ch then ⟨r, c.left - 1, left_eq, c.index + 1, c.line + 1, 0⟩
    else
      ⟨r, c.left - 1, left_eq, c.index + 1, c.line,
        if ch = '\uFEFF' then c.column else c.column + 1⟩

def skip (c : Cursor) : Nat → Cursor
  | 0 => c
  | n + 1 => c.next.skip n

/-- The place behind all characters that satisfy a test. -/
def skipWhile (p : CodePoint → Bool) (c : Cursor) : Cursor := c.skip (c.rest.takeWhile p).length

/-- The characters up to the end of the line. -/
def lineRest (c : Cursor) : Text := c.rest.takeWhile (!isBreak ·)

def skipLine (c : Cursor) : Cursor := c.skipWhile (!isBreak ·)

/-- Blanks up to a column. -/
def skipBlanksTo (column : Nat) (c : Cursor) : Cursor :=
  c.skip (min (c.rest.takeWhile (·.is ' ')).length (column - c.column))

/-- A line that starts with three such characters, and nothing behind them. -/
def startsMarker (mark : CodePoint) (c : Cursor) : Bool :=
  c.rest.take 3 == [mark, mark, mark] && separates (c.rest.drop 3).head?

/-- A line that starts or ends a document. -/
def atDocumentMarker (c : Cursor) : Bool := c.startsMarker '-' || c.startsMarker '.'

/-- The rest of a line behind which no more may stand than a comment, and its line break. -/
def endLine? (c : Cursor) : Option Cursor :=
  let c := c.skipWhile (·.is ' ')
  let c := if c.head? = some '#' then c.skipLine else c
  if endsLine c.head? then some c.next else none

theorem skip_zero (c : Cursor) : c.skip 0 = c := rfl

theorem rest_next (c : Cursor) : c.next.rest = c.rest.tail := by
  unfold next
  split
  · rename_i h
    simp [h]
  · rename_i r h
    dsimp only
    have ht : c.rest.tail = r := by simp [h]
    split <;> exact ht.symm

theorem rest_skip (c : Cursor) (n : Nat) : (c.skip n).rest = c.rest.drop n := by
  induction n generalizing c with
  | zero => simp [skip]
  | succ n ih => rw [skip, ih, rest_next, List.drop_tail]

end Cursor

end ValidatorGen.Yaml
