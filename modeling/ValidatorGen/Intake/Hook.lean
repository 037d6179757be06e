import ValidatorGen.Intake.Reading
import ValidatorGen.Text.Blank
import ValidatorGen.Text.Case

/-!
# Hooks

Some values are looked at before they are read.  A setting may be a word for a truth value; the kind
of a field may have another name; a default that is computed is dropped; and a value of an
enumeration may be a mapping with a name.
-/

namespace ValidatorGen.Intake

/-- The truth value that a text stands for, blanks around it and the case of its letters apart. -/
def truth? (s : Text) : Option Bool :=
  let w := Text.lower (Text.trim s)
  if w = "true" then some true else if w = "false" then some false else none

/-- A text as a setting is a word for a truth value. -/
def switchHook : Document → Hooked
  | .text s =>
    match truth? s with
    | some b => .value (.bool b)
    | none => .fault (.notTruth (Text.display s))
  | d => .value d

/-- So it is as the mode of relations, but for the word `default`. -/
def modeHook (d : Document) : Hooked := if d == .text "default" then .value d else switchHook d

/-- A relation may be called `object`, and what the database alone knows, which is a scalar,
`unsupported`. -/
def kindHook (d : Document) : Hooked :=
  if d == .text "object" then .value (.text "relation")
  else if d == .text "unsupported" then .value (.text "scalar")
  else .value d

/-- A list or a mapping is no default; one that the database computes is given as a mapping. -/
def defaultHook (d : Document) : Hooked :=
  match d.opened with
  | .list _ => .value .null
  | .map _ => .value .null
  | _ => .value d

/-- What is raised for a mapping without a name. -/
def missingName : Raised := ⟨"KeyError", "'name'"⟩

/-- The entries of a list of values, each of which may be a mapping with a name. -/
def valueNames? : List Document → Option (List Document)
  | [] => some []
  | d :: r => do
    let n ← match d.opened with
      | .map es => Document.field? "name" es
      | _ => some d
    let ns ← valueNames? r
    pure (n :: ns)

/-- The values of an enumeration are names. -/
def valuesHook (d : Document) : Hooked :=
  match d.opened with
  | .list items =>
    match valueNames? items with
    | some names => .value (.list names)
    | none => .raised missingName
  | _ => .value d

end ValidatorGen.Intake
