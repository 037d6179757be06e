import ValidatorGen.Yaml.Cursor

/-!
# Plain scalars

A plain scalar has no quotes.  It ends at `: `, at ` #`, inside a flow collection at one of its
signs too, and where a line does not reach the column of the scalar's surroundings.  Of the line
breaks in it the first one in a row is read as a blank if no other follows.
-/

namespace ValidatorGen.Yaml

/-- What a row of line breaks is read as. -/
def foldBreaks (first : CodePoint) (others : Text) : Text :=
  if first ≠ '\n' then first :: others else if others.isEmpty then " " else others

namespace Plain

/-- The signs between and around the items of flow collections. -/
def brackets : Text := [',', '[', ']', '{', '}']

/-- The signs of flow collections, where a plain scalar inside of them ends. -/
def flowSigns : Text := '?' :: brackets

/-- A colon in front of this character ends a plain scalar. -/
def colonEnds (flow : Bool) (c? : Option CodePoint) : Bool :=
  separates c? || flow && c?.any brackets.contains

/-- The characters up to the next place where a plain scalar ends or has a gap. -/
def word (flow : Bool) : Text → Text
  | [] => []
  | c :: r =>
    if separates (some c) || c = ':' && colonEnds flow r.head?
        || flow && flowSigns.contains c then []
    else c :: word flow r

/-- A gap in a plain scalar: what it is read as, unless the scalar ends there; whether it goes
over the end of a line; and the place behind it. -/
structure Gap where
  text? : Option Text
  crossesLine : Bool
  behind : Cursor

/-- Further line breaks, with blanks between them; the row breaks off at a document marker. -/
def moreBreaks : Nat → Cursor → Option Text × Cursor
  | 0, c => (some [], c)
  | n + 1, c =>
    match c.head? with
    | some (.char ' ') => moreBreaks n c.next
    | some ch =>
      if isBreak ch then
        let c := c.next
        if c.atDocumentMarker then (none, c)
        else
          let (breaks?, c) := moreBreaks n c
          (breaks?.map (breakChar ch :: ·), c)
      else (some [], c)
    | none => (some [], c)

/-- Reads a gap. -/
def gap (c : Cursor) : Gap :=
  let blanks := c.rest.takeWhile (·.is ' ')
  let c := c.skip blanks.length
  match c.head? with
  | some ch =>
    if isBreak ch then
      let c := c.next
      if c.atDocumentMarker then ⟨none, true, c⟩
      else
        let (breaks?, c) := moreBreaks c.left c
        ⟨breaks?.map (foldBreaks (breakChar ch)), true, c⟩
    else ⟨if blanks.isEmpty then none else some blanks, false, c⟩
  | none => ⟨if blanks.isEmpty then none else some blanks, false, c⟩

/-- Reads words with the gaps between them.  `inner` is the least column of a further line. -/
def words (flow : Bool) (inner : Nat) : Nat → Bool → Cursor → Text × Bool × Cursor
  | 0, crossed, c => ([], crossed, c)
  | n + 1, crossed, c =>
    let w := word flow c.rest
    if w.isEmpty then ([], crossed, c)
    else
      let g := gap (c.skip w.length)
      match g.text? with
      | none => (w, g.crossesLine, g.behind)
      | some between =>
        if g.behind.head? = some (.char '#') || !flow && g.behind.column < inner then
          (w, g.crossesLine, g.behind)
        else
          let (s, crossed, c) := words flow inner n g.crossesLine g.behind
          (w ++ (if s.isEmpty then [] else between ++ s), crossed, c)

/-- Reads a plain scalar: its text, whether a line ends behind it, and the place behind. -/
def scan (flow : Bool) (inner : Nat) (c : Cursor) : Text × Bool × Cursor :=
  words flow inner c.left false c

end Plain

end ValidatorGen.Yaml
