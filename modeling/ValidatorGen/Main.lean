import ValidatorGen.CommandLine.Places
import ValidatorGen.Disk.Change
import ValidatorGen.Intake.Standard.Readers
import Std.Time.Format

/-!
# The program

Takes what the program looks at from the disk, runs the program on it, and makes on the disk the
changes that the run has made.
-/

namespace ValidatorGen.Program

/-! ### From the disk -/

/-- The path of a place, as a string. -/
def pathOf (place : List Text) : String := (Path.absoluteText place).escaped

/-- Takes a file or a folder from the disk.  Bytes are taken only of the schema files and of the
file at `input`; a link to a folder is not entered. -/
partial def take (input place : List Text) : IO (Option Node) := do
  let file := (← IO.currentDir) / pathOf place
  unless ← file.pathExists do return none
  if ← file.isDir then
    let mut entries := []
    for e in ← file.readDir do
      let linked := (← e.path.symlinkMetadata).type == .symlink
      let n? ← if linked && (← e.path.isDir) then pure (some (.folder []))
        else take input (place ++ [(e.fileName : Text)])
      entries := (n?.map ((e.fileName : Text), ·)).toList ++ entries
    return some (.folder entries)
  if place = input || Path.suffixOf (Path.absoluteText place) = Native.sourceSuffix then
    return some (.file (← IO.FS.readBinFile file).data.toList)
  return some (.file [])

/-- Takes what is at the end of a way from a place from the disk, with the folders on the way, to
what is known of that place. -/
def takeIn (input place : List Text) (n? : Option Node) : List Text → IO (Option Node)
  | [] => take input place
  | a :: way => do
    let entries := (n?.map (·.entries)).getD []
    if ← ((← IO.currentDir) / pathOf place).isDir then
      let m? ← takeIn input (place ++ [a]) (Ordered.get? a entries) way
      return some (.folder ((m?.map (Ordered.put a · entries)).getD entries))
    else take input place

/-- Takes what is at a path from the disk. -/
def see (input : List Text) (d : Disk) (p : Path) : IO Disk := do
  let root? ← takeIn input [] (some d.root) (p.absolute d.cwd)
  return { d with root := root?.getD d.root }

/-- Takes from the disk what a run with these arguments looks at. -/
def seeAll (a : CommandLine.Arguments) (d : Disk) : IO Disk := do
  let some path := a.input? | return d
  let input := path.absolute d.cwd
  let d ← see input d path
  let d ← (a.places .standard d).foldlM (see input) d
  (a.sourceFolder? .standard d).toList.foldlM (see input) d

/-! ### Onto the disk -/

/-- Makes a change on the disk; a file is written next to its place and then moved there. -/
def make (word : Text) : Change → IO Unit
  | .remove place => IO.FS.removeFile (pathOf place)
  | .makeFolder place => IO.FS.createDir (pathOf place)
  | .write place content => do
    let p : Path := ⟨1, place⟩
    let temporary := (p.parent.child (Disk.temporaryName word p.name)).text.escaped
    try
      IO.FS.writeBinFile temporary ⟨content.toArray⟩
      IO.FS.rename temporary (pathOf place)
    catch e =>
      if ← ((← IO.currentDir) / temporary).pathExists then IO.FS.removeFile temporary
      throw e

/-! ### The run -/

/-- A word of eight random letters and digits. -/
def randomWord : IO Text := do
  let letters : Text := "abcdefghijklmnopqrstuvwxyz0123456789"
  let bytes ← IO.getRandomBytes 8
  return bytes.toList.filterMap fun b => letters[b.toNat % letters.length]?

/-- The occasion of a run that starts now. -/
def occasion : IO Occasion := do
  let now ← Std.Time.DateTime.now
  return {
    timestamp := now.format "uuuu-MM-dd" ++ "T" ++ now.format "HH:mm:ssZ"
    clock := now.format "HH:mm:ss"
    seconds := 0
    word := ← randomWord }

/-- Runs the program; the result is the code that it ends with. -/
def run (as : List Text) : IO UInt32 := do
  let o ← occasion
  let cwd := (Path.ofText (← IO.currentDir).toString).parts
  let d : Disk := ⟨.way cwd, cwd⟩
  let d ← match CommandLine.arguments as with
    | .ok a => seeAll a d
    | .error _ => pure d
  let f := CommandLine.run .standard o d as
  for c in Node.changes d.root f.disk.root do make o.word c
  IO.print f.out.escaped
  IO.eprint f.err.escaped
  if let .error e := f.code then
    IO.eprintln (e.className ++ ": " ++ e.message : Text).escaped
  return f.status.toUInt32

end ValidatorGen.Program

def main (args : List String) : IO UInt32 :=
  ValidatorGen.Program.run (args.map ValidatorGen.Text.ofString)
