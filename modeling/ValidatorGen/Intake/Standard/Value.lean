import ValidatorGen.Intake.Reading
import ValidatorGen.Intake.Standard.Word
import ValidatorGen.Text.Utf8

/-!
# Reading values

How texts, truth values, lists and mappings are read.  A word may stand for a truth value, and bytes
for the text that they are in UTF-8.
-/

namespace ValidatorGen.Intake

/-! ### Simple values -/

def readText : Document → Reading Text
  | .text s => .ok s
  | .bytes bs =>
    match Text.Utf8.decode bs with
    | .ok s => .ok s
    | .error _ => .fault .notDecodable
  | _ => .fault .notText

/-- A text of characters alone, without a half of a surrogate pair. -/
def readWhole (d : Document) : Reading Text :=
  (readText d).bind fun s => if s.hasHalf then .fault .notDecodable else .ok s

/-- A text with at least one character. -/
def readName (d : Document) : Reading Text :=
  (readWhole d).bind fun s => if s.isEmpty then .fault .emptyText else .ok s

/-- What a word stands for, out of a few words; `words` lists them. -/
def readChoice {α : Type} (words : Text) (choice? : Text → Option α) (d : Document) :
    Reading α :=
  match readText d with
  | .ok s =>
    match choice? s with
    | some a => .ok a
    | none => if s.hasHalf then .fault .notDecodable else .fault (.notOneOf words)
  | .refused _ => .fault (.notOneOf words)

def readBoolWord (s : Text) : Reading Bool :=
  match boolWord? s with
  | some b => .ok b
  | none => if s.hasHalf then .fault .notDecodable else .fault .notBoolWord

/-- The numbers that may stand for truth values lie in front of this one. -/
def beyondNumbers : Nat := Nat.pow 2 63

def readBoolNumber (n : Int) : Reading Bool :=
  if n = 0 then .ok false else if n = 1 then .ok true else .fault .notBoolWord

/-- A truth value, a word for one, or the numbers 0 and 1.  Numbers beyond the range of 64 bits and
fractions are no truth values at all. -/
def readBool : Document → Reading Bool
  | .bool b => .ok b
  | .text s => readBoolWord s
  | .bytes bs =>
    match Text.Utf8.decode bs with
    | .ok s => readBoolWord s
    | .error _ => .fault .notBoolWord
  | .int n =>
    if -beyondNumbers ≤ n ∧ n < beyondNumbers then readBoolNumber n else .fault .notBool
  | .float x =>
    match (Decimal.Binary.ofFloat x).whole?.filter (·.natAbs < beyondNumbers) with
    | some n => readBoolNumber n
    | none => .fault .notBool
  | _ => .fault .notBool

/-! ### Collections -/

variable {α : Type}

/-- Reads the items of a list, the first one having index `n`. -/
def readItems (read : Document → Reading α) (n : Nat) : List Document → Reading (List α)
  | [] => .ok []
  | d :: ds => (((read d).located (.index n)).map List.cons).app (readItems read (n + 1) ds)

def readList (read : Document → Reading α) (d : Document) : Reading (List α) :=
  match d.opened with
  | .list items => readItems read 0 items
  | .set items => readItems read 0 items
  | .pair a b => readItems read 0 [a, b]
  | _ => .fault .notList

/-- Reads the entries of a mapping as a record of that name. -/
def readRecord (name : Text) (read : Entries → Reading α) (d : Document) : Reading α :=
  match d.opened with
  | .map es => read es
  | _ => .fault (.notRecord name)

end ValidatorGen.Intake
