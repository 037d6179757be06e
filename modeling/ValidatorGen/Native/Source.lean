import ValidatorGen.Native.Hints
import ValidatorGen.Text.Blank
import ValidatorGen.Text.Lines
import ValidatorGen.Text.Numeral
import ValidatorGen.Text.Split

/-!
# Column types in a schema source

The scan knows as much of a schema as it needs: a model or view block opens with a header line and
ends at a line that starts with a closing brace; inside, a line is a name and its attributes, and
the attribute `@db.` carries the column type.  All else is passed over, comments included.
-/

namespace ValidatorGen.Native

/-- A line without its comment: `//` opens one unless it stands between double quotes.  A
backslash takes the next character with it, inside quotes and outside. -/
def code (inString : Bool) : Text → Text
  | [] => []
  | .char '\\' :: c :: r => '\\' :: c :: code inString r
  | c :: r =>
    if c = '/' && !inString && r.head? == some '/' then []
    else c :: code (inString != (c == '"')) r

/-- A line without its comment. -/
def stripComment (line : Text) : Text := code false line

/-! ### Blocks -/

/-- The name in the header of a block, and the text behind its brace. -/
def header? (line : Text) : Option (Text × Text) :=
  let s := Text.trimStart line
  let keyword := s.takeWhile Text.isWord
  if keyword = "model" ∨ keyword = "view" then
    let gap := s.dropWhile Text.isWord
    let rest := Text.trimStart gap
    let name := rest.takeWhile Text.isWord
    match name, Text.trimStart (rest.dropWhile Text.isWord) with
    | _ :: _, .char '{' :: r => if gap.head?.any Text.isBlank then some (name, r) else none
    | _, _ => none
  else none

/-- A block of a model or view: its name and the lines inside. -/
structure Block where
  name : Text
  body : List Text
  deriving DecidableEq, Repr

/-- The line ends a block. -/
def closesBlock (line : Text) : Bool :=
  (Text.trim (stripComment line)).head? == some '}'

/-- The blocks of a source; one that is not closed runs to the end. -/
def blocks : List Text → List Block
  | [] => []
  | l :: ls =>
    match header? l with
    | none => blocks ls
    | some (name, r) =>
      if (stripComment r).contains '}' then ⟨name, []⟩ :: blocks ls
      else ⟨name, ls.takeWhile (!closesBlock ·)⟩ :: blocks (ls.dropWhile (!closesBlock ·)).tail
termination_by ls => ls.length
decreasing_by
  · simp
  · simp
  · have := (ls.dropWhile_suffix (!closesBlock ·)).length_le
    simp
    omega

/-! ### Fields -/

/-- The name of a field line and its attributes. -/
def fieldLine? (line : Text) : Option (Text × Text) :=
  let name := line.takeWhile Text.isWord
  let gap := line.dropWhile Text.isWord
  let attributes := Text.trimStart gap
  if name.isEmpty || attributes.isEmpty || !gap.head?.any Text.isBlank then none
  else some (name, attributes)

/-- The column type at the start of a text: a word and, directly behind it, its parameters. -/
def columnType? (s : Text) : Option Text :=
  let tag := s.takeWhile Text.isWord
  if tag.isEmpty then none
  else match s.dropWhile Text.isWord with
    | .char '(' :: r =>
      if r.contains ')' then some (tag ++ "(" ++ r.takeWhile (!·.is ')') ++ ")")
      else some tag
    | _ => some tag

/-- The column type in the attributes of a field. -/
def attribute? : Text → Option Text
  | [] => none
  | c :: s =>
    match (Text.dropStart? "@db." (c :: s)).bind columnType? with
    | some t => some t
    | none => attribute? s

/-- The hint that a line inside a block holds. -/
def hint? (line : Text) : Option (Text × Text) := do
  let (name, attributes) ← fieldLine? (Text.trim (stripComment line))
  let t ← attribute? attributes
  pure (name, t)

def blockHints (b : Block) : FieldHints := Ordered.ofList (b.body.filterMap hint?)

/-- Adds the hints of a block to those of its model. -/
def addBlock (ms : List (Text × FieldHints)) (b : Block) : List (Text × FieldHints) :=
  let fs := blockHints b
  if fs.isEmpty then ms else Ordered.modify b.name [] (Ordered.merge · fs) ms

def Hints.ofLines (ls : List Text) : Hints := .ofModels ((blocks ls).foldl addBlock [])

/-- The hints that a schema source holds. -/
def Hints.ofSource (source : Text) : Hints := .ofLines (Text.lines source)

end ValidatorGen.Native
