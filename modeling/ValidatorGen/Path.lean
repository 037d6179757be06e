import ValidatorGen.Text.Case
import ValidatorGen.Text.Split

/-!
# Paths

A path as it is written: how many slashes it starts with (two are kept apart from one, more than
two count as one), and its parts, in which neither an empty part nor `.` occurs.  A `..` stays
until the path is made absolute; then it takes the part before it away.
-/

namespace ValidatorGen

/-- A path as it is written. -/
structure Path where
  slashes : Nat
  parts : List Text
  deriving DecidableEq, Repr

namespace Path

/-- How many slashes a path counts as starting with. -/
def leading (s : Text) : Nat :=
  match (s.takeWhile (·.is '/')).length with
  | 0 => 0
  | 2 => 2
  | _ => 1

/-- The pieces between slashes, without the empty ones and `.`. -/
def partsOf (s : Text) : List Text :=
  (Text.splitOn '/' s).filter fun p => !p.isEmpty && p ≠ "."

def ofText (s : Text) : Path := ⟨leading s, partsOf s⟩

/-- The written form; the path without parts is `.`. -/
def text (p : Path) : Text :=
  if p.slashes = 0 ∧ p.parts = [] then "."
  else Text.repeated p.slashes '/' ++ Text.join "/" p.parts

def isAbsolute (p : Path) : Bool := p.slashes ≠ 0

/-- `q` as seen from `p`. -/
def join (p q : Path) : Path :=
  if q.isAbsolute then q else ⟨p.slashes, p.parts ++ q.parts⟩

/-- The path without its last part. -/
def parent (p : Path) : Path := ⟨p.slashes, p.parts.dropLast⟩

/-- What a folder at this path holds under a name. -/
def child (p : Path) (name : Text) : Path := ⟨p.slashes, p.parts ++ [name]⟩

/-- The part that leads back to the folder above. -/
def up : Text := ".."

/-- The path one name back: a name at its end is taken off, and a path that has none gains a `..`
unless it starts at the root. -/
def back (p : Path) : Path :=
  if p.isAbsolute || p.parts.getLast?.any (· ≠ up) then p.parent else p.child up

/-- The last part, empty if there is none. -/
def name (p : Path) : Text := p.parts.getLast?.getD ""

/-- The end of a file name from its last dot on, unless the dot is its first or last character. -/
def suffixOf (name : Text) : Text :=
  let extension := (name.reverse.takeWhile (!·.is '.')).reverse
  let stem := name.length - extension.length - 1
  if name.contains '.' && !extension.isEmpty && 0 < stem then '.' :: extension else []

def suffix (p : Path) : Text := suffixOf p.name

/-! ### Absolute paths -/

/-- The way on to a part from an absolute place, which is back to front. -/
def step (place : List Text) (part : Text) : List Text :=
  if part = up then place.tail else part :: place

/-- Takes out every `..` with the part before it. -/
def settle (parts : List Text) : List Text := (parts.foldl step []).reverse

/-- The parts of the absolute path, seen from the working directory `cwd`. -/
def absolute (cwd : List Text) (p : Path) : List Text :=
  settle (if p.isAbsolute then p.parts else cwd ++ p.parts)

/-- The absolute path. -/
def absolutePath (cwd : List Text) (p : Path) : Path := ⟨1, p.absolute cwd⟩

/-- The written form of an absolute path. -/
def absoluteText (parts : List Text) : Text := "/" ++ Text.join "/" parts

/-- Drops what two lists start with in common. -/
def dropCommon : List Text → List Text → List Text × List Text
  | a :: s, b :: t => if a = b then dropCommon s t else (a :: s, b :: t)
  | s, t => (s, t)

/-- The parts of the way from the directory `start` to `target`. -/
def relative (target start : List Text) : List Text :=
  let p := dropCommon target start
  List.replicate p.2.length up ++ p.1

theorem not_mem_settle (parts : List Text) : up ∉ settle parts := by
  suffices h : ∀ place : List Text, up ∉ place → up ∉ parts.foldl step place by
    simpa [settle] using h [] (by simp)
  induction parts with
  | nil => simp
  | cons p ps ih =>
    intro place hplace
    apply ih
    unfold step
    split
    · exact fun h => hplace (List.mem_of_mem_tail h)
    · rename_i hp
      simp [hplace, Ne.symm hp]

end Path

end ValidatorGen
