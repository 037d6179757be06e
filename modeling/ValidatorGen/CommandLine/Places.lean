import ValidatorGen.CommandLine.Run

/-!
# What the program looks at

The program needs to see four things of the disk: the input document, the folder that it writes
to, the schema source, and, if there is no such source, the folder that it would be in.
-/

namespace ValidatorGen.CommandLine

/-- The folders that a path goes back from. -/
def turns (p : Path) : List Path :=
  (List.range p.parts.length).filterMap fun i =>
    if p.parts[i]? = some Path.up then some ⟨p.slashes, p.parts.take i⟩ else none

namespace Arguments

variable (R : Intake.Readers)

/-- The schema source that the input document names. -/
def documentSource? (a : Arguments) (d : Disk) : Option Path := do
  let input ← (d.resolve (← a.input?)).toOption
  let raw ← (Run.load R d input).2.toOption
  let q ← (Intake.readRequest R raw (some input.parent)).toOption
  q.options.schemaPath?.map .ofText

def anySource? (a : Arguments) (d : Disk) : Option Path := a.source?.or (a.documentSource? R d)

/-- What the arguments and the input document name. -/
def places (a : Arguments) (d : Disk) : List Path :=
  let source := (a.anySource? R d).toList
  a.input?.toList ++ (((a.value? .output).bind Value.text?).map .ofText).toList
    ++ source.flatMap turns ++ source

/-- The folder of a schema source that is not there. -/
def sourceFolder? (a : Arguments) (d : Disk) : Option Path := do
  let source ← a.anySource? R d
  match d.has source with
  | .ok false => some source.parent
  | _ => none

end Arguments

end ValidatorGen.CommandLine
