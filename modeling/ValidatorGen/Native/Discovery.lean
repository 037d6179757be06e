import ValidatorGen.Disk.Basic
import ValidatorGen.Journal
import ValidatorGen.Native.Source

/-!
# Finding the schema source

A schema source is a file, or a folder with schema files in it and in the folders below.  In a
folder all is taken in the order of the names; folders whose name starts with a dot are passed
over.  A path that leads nowhere stands for the file `schema.prisma` below it or else for the
folder above it.
-/

namespace ValidatorGen.Native

/-- The part of the generator that looks for the schema source. -/
def speaker : Text := "zodgen.native_types"

def defaultFile : Text := "schema.prisma"

def sourceSuffix : Text := ".prisma"

/-- Where the schema source is, and what is there. -/
def locate? (d : Disk) (p : Path) : Except DiskFault (Option (Path × Node)) := do
  if let some n ← d.find? p then return some (p, n)
  let below := p.child defaultFile
  if let some n ← d.find? below then return some (below, n)
  if p.parent = p then return none
  return (← d.find? p.parent).map (p.parent, ·)

/-- What belongs to several entries, in the order of the names. -/
def byName {α : Type} (es : List (Text × List α)) : List α :=
  (es.mergeSort fun a b => a.1 ≤ b.1).flatMap Prod.snd

/-- A path that a search comes to. -/
structure Visit where
  path : Path
  isFolder : Bool
  deriving DecidableEq, Repr

mutual

/-- What a search comes to in the entries of a folder, entry by entry. -/
def visitsIn (folder : Path) : List (Text × Node) → List (Text × List Visit)
  | [] => []
  | (name, n) :: es => (name, visitsAt (folder.child name) n) :: visitsIn folder es

/-- What a search comes to at a path inside the source and below. -/
def visitsAt (p : Path) : Node → List Visit
  | .file _ => [⟨p, false⟩]
  | .folder es => ⟨p, true⟩ :: if p.name.head? = some '.' then [] else byName (visitsIn p es)

end

namespace Visit

/-- The disk refuses to tell what is there. -/
def isTooLong (v : Visit) : Bool := Disk.maxPath ≤ FileName.size v.path.text

def isSchemaFile (v : Visit) : Bool := !v.isFolder && v.path.suffix = sourceSuffix

end Visit

/-- The schema files of a source; a source that is a file need not have a certain name.  The search
ends at the first path that is too long. -/
def sourceFiles (p : Path) : Node → Except DiskFault (List Path)
  | .file _ => .ok [p]
  | .folder es =>
    let visits := byName (visitsIn p es)
    match visits.find? Visit.isTooLong with
    | some v => .error (.of .nameTooLong v.path.text)
    | none => .ok ((visits.filter Visit.isSchemaFile).map Visit.path)

/-- The texts of those files that can be read, and a warning for each other one. -/
def readFiles (d : Disk) : List Path → List Text × Journal
  | [] => ([], [])
  | p :: ps =>
    let (texts, j) := readFiles d ps
    match d.readText p with
    | .ok s => (s :: texts, j)
    | .error f =>
      (texts, ⟨.warning, speaker,
        "Skipping unreadable schema file " ++ p.text ++ ": " ++ f.message⟩ :: j)

/-- The text of the schema source at a path; empty if there is none. -/
def readSource (d : Disk) (path : Text) : Except DiskFault (Text × Journal) := do
  match ← locate? d (.ofText path) with
  | none =>
    return ("", [⟨.warning, speaker,
      "Schema source not found at " ++ path ++ "; native types unavailable."⟩])
  | some (p, n) =>
    let (texts, j) := readFiles d (← sourceFiles p n)
    return (Text.join "\n" texts, j ++ [⟨.info, speaker,
      "Read " ++ Text.decimal texts.length ++ " schema file(s) from " ++ p.text ++ "."⟩])

/-- The hints of the schema source at a path; without a path there are none. -/
def resolve (d : Disk) : Option Text → Except DiskFault (Hints × Journal)
  | none => .ok (.empty, [])
  | some path => do
    let (source, j) ← readSource d path
    return (.ofSource source, j)

end ValidatorGen.Native
