import ValidatorGen.Text.Whole
import ValidatorGen.Yaml.Fault
import ValidatorGen.Yaml.Cursor

/-!
# Block scalars

A block scalar stands on the lines behind its header, further to the right than its surroundings.
A literal one keeps its line breaks; in a folded one a break between two lines that do not start
with a blank is read as a blank.  The header says what becomes of the last break and of the empty
lines behind it.
-/

namespace ValidatorGen.Yaml.Block

/-- What becomes of the line breaks at the end. -/
inductive Chomping
  | clip
  | strip
  | keep
  deriving DecidableEq, Repr

def chomping? (c? : Option CodePoint) : Option Chomping :=
  match c? with
  | some (.char '+') => some .keep
  | some (.char '-') => some .strip
  | _ => none

def digit? (c? : Option CodePoint) : Option Nat :=
  c?.bind fun c => if '0' ≤ c ∧ c ≤ '9' then some (c.toNat - '0'.toNat) else none

/-- The signs of a header: chomping and a number of columns, in either order. -/
def header (c : Cursor) : Except Fault (Chomping × Option Nat × Cursor) :=
  let (chomping?₁, c) := match chomping? c.head? with
    | some k => (some k, c.next)
    | none => (none, c)
  let (columns?, c) := match digit? c.head? with
    | some n => (some n, c.next)
    | none => (none, c)
  let (chomping, c) : Chomping × Cursor := match chomping?₁, columns?, chomping? c.head? with
    | none, some _, some k => (k, c.next)
    | k?, _, _ => (k?.getD .clip, c)
  if columns? = some 0 then .error .malformed
  else if endsWord c.head? then .ok (chomping, columns?, c)
  else .error .malformed

/-- The empty lines in front of a scalar, and the column that the blanks there reach. -/
def leading : Nat → Cursor → Text × Nat × Cursor
  | 0, c => ([], 0, c)
  | n + 1, c =>
    match c.head? with
    | none => ([], 0, c)
    | some ch =>
      if ch = ' ' then
        let (s, column, behind) := leading n c.next
        (s, max column c.next.column, behind)
      else if isBreak ch then
        let (s, column, behind) := leading n c.next
        (breakChar ch :: s, column, behind)
      else ([], 0, c)

/-- Line breaks, and blanks up to the column of the scalar. -/
def breaks (column : Nat) : Nat → Cursor → Text × Cursor
  | 0, c => ([], c)
  | n + 1, c =>
    let c := c.skipBlanksTo column
    match c.head? with
    | none => ([], c)
    | some ch =>
      if isBreak ch then
        let (s, c) := breaks column n c.next
        (breakChar ch :: s, c)
      else ([], c)

/-- A line of a block scalar, what its break is read as, and the empty lines behind it. -/
structure Line where
  text : Text
  break? : Option CodePoint
  empty : Text

def startsWithGap (s : Text) : Bool := s.head?.any isGap

/-- Reads the lines that stand in this column. -/
def lines (column : Nat) : Nat → Cursor → List Line × Cursor
  | 0, c => ([], c)
  | n + 1, c =>
    if c.column = column && c.head?.isSome then
      let text := c.lineRest
      let c := c.skip text.length
      let break? := c.head?.map breakChar
      let (empty, c) := breaks column (c.left + 1) c.next
      let (ls, c) := lines column n c
      (⟨text, break?, empty⟩ :: ls, c)
    else ([], c)

/-- What stands between two lines. -/
def between (folded : Bool) (l : Line) (next : Text) : Text :=
  if folded && l.break? = some (.char '\n') && !startsWithGap l.text && !startsWithGap next then
    if l.empty.isEmpty then " " else l.empty
  else l.break?.toList ++ l.empty

/-- The text of the lines of a scalar. -/
def join (folded : Bool) (chomping : Chomping) : List Line → Text
  | [] => []
  | [l] =>
    l.text ++ (if chomping = .strip then [] else l.break?.toList)
      ++ (if chomping = .keep then l.empty else [])
  | l :: l' :: ls => l.text ++ between folded l l'.text ++ join folded chomping (l' :: ls)

/-- Reads a block scalar behind the sign that opens it.  `inner` is the least column of what lies
inside its surroundings. -/
def scan (folded : Bool) (inner : Nat) (c : Cursor) : Except Fault (Text × Cursor) := do
  let (chomping, columns?, c) ← header c
  let some c := c.endLine? | throw .malformed
  let least := max 1 inner
  let (before, column, c) : Text × Nat × Cursor := match columns? with
    | none =>
      let (s, column, c) := leading c.left c
      (s, max least column, c)
    | some n =>
      let column := least + n - 1
      let (s, c) := breaks column (c.left + 1) c
      (s, column, c)
  let (ls, c) := lines column c.left c
  let empty := if ls.isEmpty && chomping ≠ .keep then [] else before
  pure (empty ++ join folded chomping ls, c)

end ValidatorGen.Yaml.Block
