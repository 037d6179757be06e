import ValidatorGen.Disk.Fault
import ValidatorGen.Disk.Name
import ValidatorGen.Disk.Tree
import ValidatorGen.Path
import ValidatorGen.Text.Lines

/-!
# The disk

A disk is a tree and a working directory in it.  A path is followed name by name: each name must
be looked up in a folder, `..` goes back, and no name may be longer than 255 bytes.
-/

namespace ValidatorGen

structure Disk where
  root : Node
  cwd : List Text
  deriving BEq, Repr, Inhabited

namespace Disk

/-! ### Following paths -/

/-- The most bytes of a name. -/
def maxName : Nat := 255

/-- The bytes of a path that is too long. -/
def maxPath : Nat := 4096

def hasNull (p : Path) : Bool := p.parts.any fun s => s.contains '\x00'

/-- What keeps the disk from being asked about a path. -/
def unaskable? (p : Path) : Option DiskFault :=
  match FileName.unstorable? p.text with
  | some h => some (.unencodable h)
  | none => if hasNull p then some .nullCharacter else none

/-- Follows names from a place; every place but the last one must be a folder. -/
def followFrom (d : Disk) (place : List Text) : List Text → Except Trouble (List Text)
  | [] => .ok place
  | a :: r =>
    match d.root.get? place with
    | none => .error .noEntry
    | some (.file _) => .error .notFolder
    | some (.folder _) =>
      if a = Path.up then d.followFrom place.dropLast r
      else if maxName < FileName.size a then .error .nameTooLong
      else d.followFrom (place ++ [FileName.stored a]) r

/-- The place that a path leads to, whether or not there is something. -/
def follow (d : Disk) (p : Path) : Except DiskFault (List Text) :=
  match unaskable? p with
  | some f => .error f
  | none =>
    if maxPath ≤ FileName.size p.text then .error (.of .nameTooLong p.text)
    else match d.followFrom (if p.isAbsolute then [] else d.cwd) p.parts with
      | .ok place => .ok place
      | .error t => .error (.of t p.text)

/-- The node that a path leads to. -/
def find (d : Disk) (p : Path) : Except DiskFault Node :=
  match d.follow p with
  | .error f => .error f
  | .ok place =>
    match d.root.get? place with
    | some n => .ok n
    | none => .error (.of .noEntry p.text)

/-- The node that a path leads to, if there is one; only a name that is too long is refused. -/
def find? (d : Disk) (p : Path) : Except DiskFault (Option Node) :=
  match d.find p with
  | .ok n => .ok (some n)
  | .error (.trouble .nameTooLong a b) => .error (.trouble .nameTooLong a b)
  | .error _ => .ok none

def has (d : Disk) (p : Path) : Except DiskFault Bool := (d.find? p).map (·.isSome)

def isFolder (d : Disk) (p : Path) : Except DiskFault Bool :=
  (d.find? p).map fun n => n.any (·.isFolder)

def isFile (d : Disk) (p : Path) : Except DiskFault Bool :=
  (d.find? p).map fun n => n.any (!·.isFolder)

/-- What keeps the disk from being asked about the names on a way, the first of them first. -/
def unaskableOn? (way : Path) : List Text → Option DiskFault
  | [] => none
  | a :: r =>
    let way := if a = Path.up then way.back else way.child a
    (unaskable? way).or (unaskableOn? way r)

/-- The absolute path, whether or not there is something. -/
def resolve (d : Disk) (p : Path) : Except DiskFault Path :=
  match unaskableOn? ⟨min p.slashes 1, []⟩ p.parts with
  | some f => .error f
  | none => .ok (p.absolutePath d.cwd)

/-! ### Reading -/

/-- The bytes of a file. -/
def readBytes (d : Disk) (p : Path) : Except DiskFault (List UInt8) :=
  match d.find p with
  | .error f => .error f
  | .ok (.folder _) => .error (.of .isFolder p.text)
  | .ok (.file c) => .ok c

/-- The text that bytes hold, every line ended by a line feed. -/
def decodeText (bytes : List UInt8) : Except DiskFault Text :=
  match Text.Utf8.decode bytes with
  | .ok s => .ok (Text.unixNewlines s)
  | .error f => .error (.undecodable f)

/-- The text of a file. -/
def readText (d : Disk) (p : Path) : Except DiskFault Text := (d.readBytes p).bind decodeText

/-! ### Writing -/

/-- A path that ends in a name of its own, not in `..` or at a root. -/
def endsInName (p : Path) : Bool := p.parts.getLast?.any (· ≠ Path.up)

/-- Makes a folder; the one that it is in must exist. -/
def makeFolder (d : Disk) (p : Path) : Except DiskFault Disk :=
  match d.follow p with
  | .error f => .error f
  | .ok place =>
    if !endsInName p || (d.root.get? place).isSome then .error (.of .taken p.text)
    else .ok { d with root := d.root.set (.folder []) place }

/-- What becomes of the refusal to make a folder: none, if the folder is there already. -/
def unlessFolder (d : Disk) (p : Path) (f : DiskFault) : Except DiskFault Unit :=
  match f with
  | .trouble .. =>
    match d.isFolder p with
    | .ok true => .ok ()
    | .ok false => .error f
    | .error g => .error g
  | f => .error f

/-- Makes a folder with all that it is in, unless it is there.  Folders that are made before a
refusal stay. -/
def ensureFolder (d : Disk) (p : Path) : Disk × Except DiskFault Unit :=
  match d.makeFolder p with
  | .ok d' => (d', .ok ())
  | .error (.trouble .noEntry a b) =>
    if h : p.parts = [] then (d, .error (.trouble .noEntry a b))
    else
      have : p.parent.parts.length < p.parts.length := by
        have := List.length_pos_iff.2 h
        simp [Path.parent]
        omega
      match ensureFolder d p.parent with
      | (d', .error f) => (d', .error f)
      | (d', .ok ()) =>
        match d'.makeFolder p with
        | .ok d'' => (d'', .ok ())
        | .error (.trouble .noEntry a b) => (d', .error (.trouble .noEntry a b))
        | .error f => (d', d'.unlessFolder p f)
  | .error f => (d, d.unlessFolder p f)
termination_by p.parts.length

/-- Writes a file in place. -/
def overwrite (d : Disk) (p : Path) (content : List UInt8) : Except DiskFault Disk :=
  match d.follow p with
  | .error f => .error f
  | .ok place =>
    match d.root.get? place with
    | some (.folder _) => .error (.of .isFolder p.text)
    | _ => .ok { d with root := d.root.set (.file content) place }

/-- The name of the temporary file for a file of this name; `word` sets it apart. -/
def temporaryName (word name : Text) : Text := "." ++ name ++ "." ++ word ++ ".tmp"

/-- The place for a new file: the given one, or one with a longer name next to it if there is
something already. -/
def free (d : Disk) (place : List Text) : List Text :=
  if (d.root.get? place).isSome then
    let folder := place.dropLast
    let names := Ordered.keys ((d.root.get? folder).elim [] Node.entries)
    folder ++ [place.getLast?.getD [] ++ "~" ++ names.flatten]
  else place

/-- Moves what is at a place over a file; `source` is the path that faults name for it. -/
def move (d : Disk) (place : List Text) (source p : Path) : Except DiskFault Disk :=
  let refuse (t : Trouble) (target : Text) : DiskFault := .trouble t source.text (some target)
  if !endsInName p then .error (refuse .busy p.text)
  else match d.follow p with
    | .error (.trouble t a _) => .error (refuse t a)
    | .error f => .error f
    | .ok target =>
      match d.root.get? place, d.root.get? target with
      | _, some (.folder _) => .error (refuse .isFolder p.text)
      | none, _ => .error (refuse .noEntry p.text)
      | some n, _ => .ok { d with root := (d.root.remove place).set n target }

/-- Writes a temporary file and moves it over the file.  If the move is refused, the temporary
file is removed again. -/
def replace (d : Disk) (word : Text) (p : Path) (content : List UInt8) :
    Disk × Except DiskFault Unit :=
  let temporary := (p.parent.absolutePath d.cwd).child (temporaryName word p.name)
  match d.follow temporary with
  | .error f => (d, .error f)
  | .ok place =>
    let place := d.free place
    let d' := { d with root := d.root.set (.file content) place }
    match d'.move place temporary p with
    | .ok d'' => (d'', .ok ())
    | .error f => ({ d' with root := d'.root.remove place }, .error f)

/-- Writes a text to a file and makes the folders that it is in; the result is the number of
bytes.  An atomic write goes through a temporary file. -/
def writeText (d : Disk) (word : Text) (atomic : Bool) (p : Path) (text : Text) :
    Disk × Except DiskFault Nat :=
  match d.ensureFolder p.parent with
  | (d', .error f) => (d', .error f)
  | (d', .ok ()) =>
    match Text.Utf8.halves? text with
    | some h => (d', .error (.unencodable h))
    | none =>
      let content := Text.Utf8.encode text
      let (d'', result) := if atomic then d'.replace word p content
        else match d'.overwrite p content with
          | .ok d'' => (d'', .ok ())
          | .error f => (d', .error f)
      (d'', result.map fun () => content.length)

end Disk

end ValidatorGen
