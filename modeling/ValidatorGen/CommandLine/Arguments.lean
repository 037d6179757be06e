import ValidatorGen.CommandLine.Flag
import ValidatorGen.Ordered
import ValidatorGen.Path
import ValidatorGen.Text.Display
import ValidatorGen.Text.Numeral
import ValidatorGen.Text.Split

/-!
# Reading arguments

A long spelling may be cut short as long as one flag alone is meant; short spellings may be put
together.  A value follows as the next argument, behind an equals sign, or directly behind a short
spelling.  Behind `--` nothing is a flag; `--` in place of an attached value is an empty list.
-/

namespace ValidatorGen.CommandLine

/-- Why arguments are refused. -/
inductive Complaint
  | ambiguous (argument : Text) (candidates : List Text)
  | noValue (f : Flag)
  | extraValue (f : Flag) (value : Text)
  | badChoice (f : Flag) (value : Text) (choices : List Text)
  | missing (fs : List Flag)
  | unrecognized (arguments : List Text)
  deriving DecidableEq, Repr

def Complaint.message : Complaint → Text
  | ambiguous a cs => "ambiguous option: " ++ a ++ " could match " ++ Text.join ", " cs
  | noValue f => "argument " ++ f.title ++ ": expected one argument"
  | extraValue f v =>
    "argument " ++ f.title ++ ": ignored explicit argument " ++ Text.display v
  | badChoice f v cs =>
    "argument " ++ f.title ++ ": invalid choice: " ++ Text.display v ++ " (choose from "
      ++ Text.join ", " (cs.map Text.display) ++ ")"
  | missing fs =>
    "the following arguments are required: " ++ Text.join ", " (fs.map (·.title))
  | unrecognized as => "unrecognized arguments: " ++ Text.join " " as

/-! ### Single arguments -/

/-- What an argument is; a text may be attached to a flag, behind an equals sign or directly behind
a short spelling. -/
inductive Word
  | plain
  | unknown
  | flag (f : Flag) (long : Bool) (attached? : Option Text)
  deriving DecidableEq, Repr

/-- The text in front of the first equals sign, and what is attached by it. -/
def splitValue (s : Text) : Text × Option Text :=
  match s.dropWhile (!·.is '=') with
  | _ :: r => (s.takeWhile (!·.is '='), some r)
  | [] => (s, none)

/-- The flags that an argument may mean if it is no full spelling, with the spelling meant. -/
def candidates (s : Text) : List (Text × Word) :=
  match s with
  | .char '-' :: .char '-' :: _ =>
    let (name, attached?) := splitValue s
    (Flag.spellings.filter fun p => (Text.dropStart? name p.1).isSome).map fun p =>
      (p.1, .flag p.2 true attached?)
  | .char '-' :: c :: r =>
    (Flag.spellings.filter fun p => p.1 = [.char '-', c]).map fun p =>
      (p.1, .flag p.2 false (some r))
  | _ => []

/-- A number with a minus in front, which is no flag. -/
def isNegative (s : Text) : Bool :=
  match s with
  | .char '-' :: r =>
    let digit (c : CodePoint) : Bool := (Text.digitValue? c).isSome
    let r := if r.getLast? = some (.char '\n') then r.dropLast else r
    match r.dropWhile digit with
    | [] => !r.isEmpty
    | .char '.' :: t => !t.isEmpty && t.all digit
    | _ => false
  | _ => false

def isLong (s : Text) : Bool := s.take 2 = "--"

/-- What an argument in front of `--` is. -/
def word (s : Text) : Except Complaint Word :=
  if s.head? ≠ some (.char '-') then .ok .plain
  else match Flag.ofName? s with
    | some f => .ok (.flag f (isLong s) none)
    | none =>
      if s.length = 1 then .ok .plain
      else
        let (name, attached?) := splitValue s
        match attached?, Flag.ofName? name with
        | some v, some f => .ok (.flag f (isLong s) (some v))
        | _, _ =>
          match candidates s with
          | [(_, w)] => .ok w
          | [] => .ok (if isNegative s || s.contains ' ' then .plain else .unknown)
          | cs => .error (.ambiguous s (cs.map Prod.fst))

/-- What each argument is. -/
def words : List Text → Except Complaint (List (Text × Word))
  | [] => .ok []
  | a :: as =>
    if a = "--" then .ok ((a :: as).map fun a => (a, .plain))
    else do
      let w ← word a
      let ws ← words as
      pure ((a, w) :: ws)

/-! ### Flags and their values -/

/-- The value of a flag. -/
inductive Value
  | text (s : Text)
  /-- An empty list in place of a text. -/
  | empty
  deriving DecidableEq, Repr

/-- The value that is attached to a flag. -/
def Value.ofAttached (s : Text) : Value :=
  if s = "--" then empty else text s

def Value.text? : Value → Option Text
  | text s => some s
  | empty => none

/-- What one argument asks for: flags with their values, and one at the end that still wants
one. -/
structure Wish where
  flags : List (Flag × Value) := []
  open? : Option Flag := none

/-- Puts a flag in front. -/
def Wish.cons (f : Flag) (w : Wish) : Wish := { w with flags := (f, .empty) :: w.flags }

/-- A flag with nothing attached. -/
def Wish.ofFlag (f : Flag) : Wish :=
  if f.takesValue then { open? := some f } else { flags := [(f, .empty)] }

/-- What a short spelling asks for with a text attached: the flag takes it as its value, or it is
more short spellings. -/
def ofRun (f : Flag) : Text → Except Complaint Wish
  | [] => if f.takesValue then .ok { flags := [(f, .text "")] } else .error (.extraValue f "")
  | c :: r =>
    if f.takesValue then .ok { flags := [(f, .ofAttached (c :: r))] }
    else match Flag.ofName? ['-', c] with
      | none => .error (.extraValue f (c :: r))
      | some g => (if r.isEmpty then .ok (.ofFlag g) else ofRun g r).map (.cons f)

/-- What a flag asks for. -/
def wish (f : Flag) (long : Bool) (attached? : Option Text) : Except Complaint Wish :=
  match attached? with
  | none => .ok (.ofFlag f)
  | some s =>
    if long && !f.takesValue then .error (.extraValue f s) else ofRun f s

/-- What the arguments ask for. -/
structure Arguments where
  values : List (Flag × Value) := []
  verbosity : Nat := 0

namespace Arguments

def has (a : Arguments) (f : Flag) : Bool := (Ordered.get? f a.values).isSome

def value? (a : Arguments) (f : Flag) : Option Value := Ordered.get? f a.values

/-- The input document, if a path is given for it. -/
def input? (a : Arguments) : Option Path :=
  ((a.value? .schema).bind Value.text?).map .ofText

/-- The schema source; an empty one counts as none. -/
def source? (a : Arguments) : Option Path :=
  (((a.value? .schemaSource).bind Value.text?).filter (!·.isEmpty)).map .ofText

end Arguments

/-- How reading arguments ends if nothing is to be run. -/
inductive Stop
  | help
  | version
  | refused (c : Complaint)
  deriving DecidableEq, Repr

/-- Takes a flag with its value; of two values of one flag the later one counts. -/
def take (a : Arguments) (f : Flag) (v : Value) : Except Stop Arguments :=
  match f with
  | .help => .error .help
  | .version => .error .version
  | .verbose => .ok { a with verbosity := a.verbosity + 1 }
  | f =>
    match v, f.choices? with
    | .text s, some cs =>
      if cs.contains s then .ok { a with values := Ordered.put f v a.values }
      else .error (.refused (.badChoice f s cs))
    | _, _ => .ok { a with values := Ordered.put f v a.values }

def takeAll (a : Arguments) : List (Flag × Value) → Except Stop Arguments
  | [] => .ok a
  | (f, v) :: r => do takeAll (← take a f v) r

/-- Takes all arguments; the result has those that belong to no flag. -/
def takeWords (a : Arguments) (extra : List Text) :
    List (Text × Word) → Except Stop (Arguments × List Text)
  | [] => .ok (a, extra)
  | (s, .plain) :: r => takeWords a (extra ++ [s]) r
  | (s, .unknown) :: r => takeWords a (extra ++ [s]) r
  | (_, .flag f long attached?) :: r =>
    match wish f long attached? with
    | .error c => .error (.refused c)
    | .ok w =>
      match w.open?, r with
      | none, r => do takeWords (← takeAll a w.flags) extra r
      | some g, (s, .plain) :: r =>
        if s = "--" then .error (.refused (.noValue g))
        else do takeWords (← takeAll a (w.flags ++ [(g, .text s)])) extra r
      | some g, _ => .error (.refused (.noValue g))

/-- Reads the arguments of the program. -/
def arguments (as : List Text) : Except Stop Arguments :=
  match words as with
  | .error c => .error (.refused c)
  | .ok ws => do
    let (a, extra) ← takeWords {} [] ws
    if !a.has .schema then throw (.refused (.missing [.schema]))
    if !extra.isEmpty then throw (.refused (.unrecognized extra))
    pure a

end ValidatorGen.CommandLine
