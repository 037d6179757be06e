import ValidatorGen.Decimal.Shortest
import ValidatorGen.Document.Calendar
import ValidatorGen.Text.Display

/-!
# Documents

A document is what an input file holds: nested lists and mappings over simple values.  A mapping
keeps the order of its entries.  A collection may hold itself: then it is a `knot`, and `back`
stands in it for the whole of it; `opened` puts the whole there.  `shown` is the form of a value
inside another one, `toText` its form on its own.
-/

namespace ValidatorGen

inductive Document
  | null
  | bool (b : Bool)
  | int (n : Int)
  | float (x : Float)
  /-- A decimal that is no number and is the same as itself alone. -/
  | nan (number : Nat)
  | text (s : Text)
  | bytes (bs : List UInt8)
  | date (d : Date)
  | moment (m : Moment)
  | list (items : List Document)
  /-- An entry of an ordered list of pairs. -/
  | pair (first second : Document)
  | set (items : List Document)
  | map (entries : List (Document × Document))
  /-- A list or a mapping that holds itself. -/
  | knot (number : Nat) (content : Document)
  /-- The knot of this number, inside of it. -/
  | back (number : Nat)
  deriving Repr, Inhabited

namespace Document

/-! ### Comparing -/

mutual

/-- Two values are written the same way, decimals being compared by value. -/
def beq : Document → Document → Bool
  | null, null => true
  | bool a, bool b => a == b
  | int m, int n => m == n
  | float x, float y => x == y
  | nan m, nan n => m == n
  | text s, text t => s == t
  | bytes a, bytes b => a == b
  | date d, date e => d == e
  | moment m, moment n => m == n
  | list items, list others => beqAll items others
  | pair a b, pair c d => beq a c && beq b d
  | set items, set others => beqAll items others
  | map entries, map others => beqEntries entries others
  | knot m d, knot n e => m == n && beq d e
  | back m, back n => m == n
  | _, _ => false

def beqAll : List Document → List Document → Bool
  | [], [] => true
  | a :: items, b :: others => beq a b && beqAll items others
  | _, _ => false

def beqEntries : List (Document × Document) → List (Document × Document) → Bool
  | [], [] => true
  | (k, v) :: entries, (l, w) :: others => beq k l && beq v w && beqEntries entries others
  | _, _ => false

end

instance : BEq Document := ⟨beq⟩

/-- The name of the kind of a value. -/
def kindName : Document → Text
  | null => "NoneType"
  | bool _ => "bool"
  | int _ => "int"
  | float _ => "float"
  | nan _ => "float"
  | text _ => "str"
  | bytes _ => "bytes"
  | date _ => "date"
  | moment _ => "datetime"
  | list _ => "list"
  | pair .. => "tuple"
  | set _ => "set"
  | map _ => "dict"
  | knot _ d => d.kindName
  | back _ => "dict"

/-- The name of the kind with the module it comes from. -/
def fullKindName : Document → Text
  | date _ => "datetime.date"
  | moment _ => "datetime.datetime"
  | v => v.kindName

/-- The value is empty, zero, false or null. -/
def isEmpty : Document → Bool
  | null => true
  | bool b => !b
  | int n => n = 0
  | float x => x == 0
  | text s => s.isEmpty
  | bytes bs => bs.isEmpty
  | list items => items.isEmpty
  | set items => items.isEmpty
  | map entries => entries.isEmpty
  | _ => false

/-! ### Knots -/

mutual

/-- Puts the whole of a knot where its content refers back to it. -/
def tie (number : Nat) (whole : Document) : Document → Document
  | list items => list (tieAll number whole items)
  | pair a b => pair (tie number whole a) (tie number whole b)
  | map entries => map (tieEntries number whole entries)
  | knot n d => if n = number then knot n d else knot n (tie number whole d)
  | back n => if n = number then whole else back n
  | d => d

def tieAll (number : Nat) (whole : Document) : List Document → List Document
  | [] => []
  | i :: items => tie number whole i :: tieAll number whole items

def tieEntries (number : Nat) (whole : Document) :
    List (Document × Document) → List (Document × Document)
  | [] => []
  | (k, v) :: entries => (k, tie number whole v) :: tieEntries number whole entries

end

/-- The content of a knot, with the knot itself where it refers back; all else is open. -/
def opened : Document → Document
  | knot n d => tie n (knot n d) d
  | d => d

/-! ### Looking up -/

/-- The whole number that a value equals. -/
def whole? : Document → Option Int
  | bool b => some (if b then 1 else 0)
  | int n => some n
  | float x => (Decimal.Binary.ofFloat x).whole?
  | _ => none

/-- Two keys are one: numbers by value, whatever their kind, moments by universal time, and all else
if it is the same. -/
def same (a b : Document) : Bool :=
  match a.whole?, b.whole? with
  | some m, some n => m = n
  | none, none =>
    match a, b with
    | moment m, moment n => m.same n
    | float x, float y => x == y || x.isNaN && y.isNaN
    | a, b => a == b
  | _, _ => false

/-- The entry of a mapping under a text. -/
def field? (key : Text) : List (Document × Document) → Option Document
  | [] => none
  | (k, v) :: r => if same k (.text key) then some v else field? key r

/-! ### Showing -/

/-- A byte string between quotes. -/
def showBytes (bs : List UInt8) : Text :=
  let q : CodePoint := if bs.contains 0x27 && !bs.contains 0x22 then '"' else '\''
  let byte (b : UInt8) : Text :=
    let c := CodePoint.ofNat b.toNat
    if c = '\\' ∨ c = q then ['\\', c]
    else if c = '\n' then ['\\', 'n']
    else if c = '\r' then ['\\', 'r']
    else if c = '\t' then ['\\', 't']
    else if 0x20 ≤ b && b < 0x7F then [c]
    else "\\x" ++ Text.hex 2 b.toNat
  'b' :: q :: (bs.flatMap byte ++ [q])

/-- What is shown of a collection inside itself. -/
def ellipsis : Document → Text
  | list _ => "[...]"
  | _ => "\x7b...\x7d"

/-- Collections that are being shown: their numbers, and what is shown of them inside. -/
abbrev Shown := List (Nat × Text)

mutual

/-- The form of a value inside of some that are being shown. -/
def shownIn (around : Shown) : Document → Text
  | null => "None"
  | bool b => if b then "True" else "False"
  | int n => Text.signedDecimal n
  | float x => Decimal.text x
  | nan _ => Decimal.text (0.0 / 0.0)
  | text s => Text.display s
  | bytes bs => showBytes bs
  | date d => "datetime.date(" ++ d.parts ++ ")"
  | moment m => "datetime.datetime(" ++ m.parts ++ ")"
  | list items => "[" ++ Text.join ", " (shownAll around items) ++ "]"
  | pair a b => "(" ++ a.shownIn around ++ ", " ++ b.shownIn around ++ ")"
  | set [] => "set()"
  | set (i :: items) =>
    "\x7b" ++ Text.join ", " (i.shownIn around :: shownAll around items) ++ "\x7d"
  | map entries => "\x7b" ++ Text.join ", " (shownEntries around entries) ++ "\x7d"
  | knot n d =>
    match around.find? (·.1 = n) with
    | some p => p.2
    | none => d.shownIn ((n, d.ellipsis) :: around)
  | back n => ((around.find? (·.1 = n)).map Prod.snd).getD "..."

def shownAll (around : Shown) : List Document → List Text
  | [] => []
  | i :: items => i.shownIn around :: shownAll around items

def shownEntries (around : Shown) : List (Document × Document) → List Text
  | [] => []
  | (k, v) :: entries =>
    (k.shownIn around ++ ": " ++ v.shownIn around) :: shownEntries around entries

end

/-- The form of a value inside another one. -/
def shown (d : Document) : Text := d.shownIn []

/-- What keeps a value from being written. -/
inductive Obstacle
  /-- A whole number in it has more digits than are written. -/
  | longNumber
  /-- Values in it are too deep inside each other. -/
  | tooDeep
  deriving DecidableEq, Repr

mutual

/-- The first obstacle in the form of a value inside of the knots `around`, if `room` values may be
inside each other. -/
def obstacleIn? (around : List Nat) : Nat → Document → Option Obstacle
  | 0, _ => some .tooDeep
  | _ + 1, int n => if Text.isLong n then some .longNumber else none
  | room + 1, list items => obstacleAmong? around room items
  | room + 1, pair a b => (a.obstacleIn? around room).or (b.obstacleIn? around room)
  | _ + 1, set [] => none
  -- what is shown of a set is the list of its items
  | 1, set (_ :: _) => some .tooDeep
  | room + 2, set (i :: items) =>
    (i.obstacleIn? around room).or (obstacleAmong? around room items)
  | room + 1, map entries => obstacleAmongEntries? around room entries
  | room + 1, knot n d =>
    if around.contains n then none else d.obstacleIn? (n :: around) (room + 1)
  | _ + 1, _ => none

def obstacleAmong? (around : List Nat) (room : Nat) : List Document → Option Obstacle
  | [] => none
  | i :: items => (i.obstacleIn? around room).or (obstacleAmong? around room items)

def obstacleAmongEntries? (around : List Nat) (room : Nat) :
    List (Document × Document) → Option Obstacle
  | [] => none
  | (k, v) :: entries =>
    ((k.obstacleIn? around room).or (v.obstacleIn? around room)).or
      (obstacleAmongEntries? around room entries)

end

/-- The form of a value on its own. -/
def toText : Document → Text
  | text s => s
  | date d => d.text
  | moment m => m.text " "
  | v => v.shown

/-- What keeps the form of a value on its own from being written. -/
def obstacle? (room : Nat) : Document → Option Obstacle
  | text _ => none
  | date _ => none
  | moment _ => none
  | v => v.obstacleIn? [] room

end Document

end ValidatorGen
