import ValidatorGen.Document.Value
import ValidatorGen.Intake.Fault

/-!
# Reading records out of documents

A reading is a value or a refusal.  Readings of the parts of a record are put together by `app`,
which collects the faults of all parts in their order.  An entry of a record may stand under either
of two names; faults name the one under which it stands, or the outer one if it is missing.  A hook
sees a value before it is read.
-/

namespace ValidatorGen.Intake

inductive Reading (α : Type)
  | ok (value : α)
  | refused (r : Refusal)
  deriving Repr

namespace Reading

variable {α β : Type}

def fault (c : Complaint) : Reading α := refused (.faults [⟨[], c⟩])

def map (f : α → β) : Reading α → Reading β
  | ok a => ok (f a)
  | refused r => refused r

def bind (f : α → Reading β) : Reading α → Reading β
  | ok a => f a
  | refused r => refused r

/-- Both refusals together; what is raised first outweighs all faults. -/
def both : Refusal → Refusal → Refusal
  | .faults fs, .faults gs => .faults (fs ++ gs)
  | .raised r, _ => .raised r
  | .faults _, .raised r => .raised r

/-- Applies what the first reading gives to what the second one gives. -/
def app : Reading (α → β) → Reading α → Reading β
  | ok f, ok a => ok (f a)
  | ok _, refused r => refused r
  | refused r, ok _ => refused r
  | refused r, refused s => refused (both r s)

/-- The reading of what is one step away. -/
def located (s : Step) : Reading α → Reading α
  | ok a => ok a
  | refused (.faults fs) => refused (.faults (fs.map (Fault.at s)))
  | refused (.raised r) => refused (.raised r)

end Reading

variable {α : Type}

/-- Null, or what `read` reads. -/
def readNullable (read : Document → Reading α) : Document → Reading (Option α)
  | .null => .ok none
  | d => (read d).map some

/-! ### Hooks -/

/-- What a hook makes of a value. -/
inductive Hooked
  | value (d : Document)
  | fault (c : Complaint)
  | raised (r : Raised)
  deriving Repr

/-- Reads what a hook makes of a value. -/
def Hooked.read (read : Document → Reading α) : Hooked → Reading α
  | value d => read d
  | fault c => .fault c
  | raised r => .refused (.raised r)

/-! ### Entries -/

/-- The two names of an entry. -/
structure Key where
  outer : Text
  inner : Text
  deriving DecidableEq, Repr

/-- A key with one name. -/
def Key.plain (n : Text) : Key := ⟨n, n⟩

/-- The entries of a mapping. -/
abbrev Entries := List (Document × Document)

/-- The name under which an entry stands, and its value; the outer name comes first. -/
def Key.find? (k : Key) (es : Entries) : Option (Text × Document) :=
  match Document.field? k.outer es with
  | some v => some (k.outer, v)
  | none => (Document.field? k.inner es).map (k.inner, ·)

/-- Reads an entry that must be there. -/
def Key.required (k : Key) (read : Document → Reading α) (es : Entries) : Reading α :=
  match k.find? es with
  | some (name, v) => (read v).located (.key name)
  | none => (Reading.fault .missing).located (.key k.outer)

/-- Reads an entry that is `default` if it is not there. -/
def Key.optional (k : Key) (default : α) (read : Document → Reading α) (es : Entries) :
    Reading α :=
  match k.find? es with
  | some (name, v) => (read v).located (.key name)
  | none => .ok default

end ValidatorGen.Intake
