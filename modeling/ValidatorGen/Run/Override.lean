import ValidatorGen.Intake.Reading
import ValidatorGen.Ordered

/-!
# Overriding settings

Settings that are given for one run are put over those of the input document.  For that the latter
must be a mapping, or, for a generating run, something that lists entries.
-/

namespace ValidatorGen.Run

/-- Why nothing can be put over the settings of a document. -/
inductive OverrideFault
  /-- The settings list nothing. -/
  | notIterable (kind : Text)
  /-- An entry has no parts. -/
  | notSequence (index : Nat)
  /-- An entry has another number of parts than two. -/
  | notTwo (index length : Nat)
  /-- A key is a collection. -/
  | unhashable (kind : Text)
  | notMapping (kind : Text)
  deriving DecidableEq, Repr

namespace OverrideFault

/-- The class of errors that a fault belongs to. -/
def className : OverrideFault → Text
  | notTwo .. => "ValueError"
  | _ => "TypeError"

def message : OverrideFault → Text
  | notIterable k => "'" ++ k ++ "' object is not iterable"
  | notSequence i =>
    "cannot convert dictionary update sequence element #" ++ Text.decimal i ++ " to a sequence"
  | notTwo i n =>
    "dictionary update sequence element #" ++ Text.decimal i ++ " has length " ++ Text.decimal n
      ++ "; 2 is required"
  | unhashable k => "unhashable type: '" ++ k ++ "'"
  | notMapping k => "'" ++ k ++ "' object is not a mapping"

end OverrideFault

/-- The parts of a value that has any. -/
def parts? (d : Document) : Option (List Document) :=
  match d.opened with
  | .text s => some (s.map fun c => .text [c])
  | .bytes bs => some (bs.map fun b => .int b.toNat)
  | .list items => some items
  | .pair a b => some [a, b]
  | .set items => some items
  | .map es => some (es.map Prod.fst)
  | _ => none

/-- The kind of the collection that keeps a value from being a key. -/
def unhashable? : Document → Option Text
  | .list _ => some "list"
  | .set _ => some "set"
  | .map _ => some "dict"
  | .knot _ d => unhashable? d
  | .pair a b => (unhashable? a).or (unhashable? b)
  | _ => none

/-- The entries that a list of pairs stands for, behind those before `index`. -/
def entriesFrom (index : Nat) (before : Intake.Entries) :
    List Document → Except OverrideFault Intake.Entries
  | [] => .ok before
  | e :: es =>
    match parts? e with
    | none => .error (.notSequence index)
    | some [k, v] =>
      match unhashable? k with
      | some kind => .error (.unhashable kind)
      | none => entriesFrom (index + 1) (Ordered.putBy Document.same k v before) es
    | some ps => .error (.notTwo index ps.length)

/-- The entries of the settings in a document; what is empty has none. -/
def looseEntries (settings : Document) : Except OverrideFault Intake.Entries :=
  if settings.isEmpty then .ok []
  else match settings.opened with
    | .map es => .ok es
    | v =>
      match parts? v with
      | some items => entriesFrom 0 [] items
      | none => .error (.notIterable v.fullKindName)

/-- The same, where nothing but a mapping will do. -/
def strictEntries (settings : Document) : Except OverrideFault Intake.Entries :=
  if settings.isEmpty then .ok []
  else match settings.opened with
    | .map es => .ok es
    | v => .error (.notMapping v.fullKindName)

/-- Puts entries over others. -/
def putOver (new base : Intake.Entries) : Intake.Entries :=
  new.foldl (fun m e => Ordered.putBy Document.same e.1 e.2 m) base

/-- The document with settings put over its own, if there are any; `read` reads its own. -/
def overridden (read : Document → Except OverrideFault Intake.Entries) (new raw : Intake.Entries) :
    Except OverrideFault Intake.Entries :=
  if new.isEmpty then .ok raw
  else do
    let base ← read ((Document.field? "config" raw).getD .null)
    pure (putOver [(.text "config", .map (putOver new base))] raw)

end ValidatorGen.Run
