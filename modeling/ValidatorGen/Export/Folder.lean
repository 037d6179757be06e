import ValidatorGen.Decimal.Fixed
import ValidatorGen.Disk.Basic
import ValidatorGen.Export.Manifest
import ValidatorGen.Journal
import ValidatorGen.Run.Occasion

/-!
# Exporting to a folder

An export makes the folder, perhaps removes what an earlier one left there, writes the files one
by one and then the manifest.  A file that cannot be written is an error and does not keep the
others from being written; a manifest that cannot be written is only worth a warning.
-/

namespace ValidatorGen.Export

/-- The part of the generator that writes files. -/
def speaker : Text := "zodgen.exporters"

def manifestFile : Text := "manifest.json"

def moduleSuffix : Text := ".ts"

/-- How an export is done. -/
structure Policy where
  /-- Old modules and the old manifest are removed first. -/
  clean : Bool := false
  atomic : Bool := true
  withManifest : Bool := true
  deriving DecidableEq, Repr

/-- Where an export stands. -/
structure Progress where
  disk : Disk
  journal : Journal := []
  records : List FileRecord := []
  errors : List Text := []
  warnings : List Text := []
  /-- What ended the export early. -/
  fault? : Option DiskFault := none
  deriving Repr

namespace Progress

def note (p : Progress) (level : Level) (message : Text) : Progress :=
  { p with journal := p.journal ++ [⟨level, speaker, message⟩] }

/-- An error, which is also said in the journal. -/
def fail (p : Progress) (message : Text) : Progress :=
  { p.note .error message with errors := p.errors ++ [message] }

/-- Refused by the disk, an export goes on with an error; any other fault ends it. -/
def refuse (p : Progress) (f : DiskFault) (what : Text) : Progress :=
  if f.isTrouble then p.fail (what ++ ": " ++ f.className ++ ": " ++ f.message)
  else { p with fault? := some f }

/-- Goes on unless the export has ended. -/
def andThen (p : Progress) (step : Progress → Progress) : Progress :=
  if p.fault?.isSome then p else step p

def success (p : Progress) : Bool := p.errors.isEmpty

def manifest (p : Progress) (o : Occasion) (folder : Path) : Manifest :=
  ⟨o.timestamp, folder.text, p.records⟩

end Progress

/-! ### The steps -/

/-- What an earlier export may have left. -/
def isStale : Text × Node → Bool
  | (name, .file _) => Path.suffixOf name = moduleSuffix || name = manifestFile
  | (_, .folder _) => false

/-- Removes what an earlier export may have left in a folder; the folders in it are not entered. -/
def dropStale (d : Disk) (folder : Path) : Disk :=
  match d.follow folder with
  | .error _ => d
  | .ok place =>
    match d.root.get? place with
    | some (.folder es) => { d with root := d.root.set (.folder (es.filter (!isStale ·))) place }
    | _ => d

def cleanFolder (policy : Policy) (folder : Path) (p : Progress) : Progress :=
  if policy.clean then
    { p.note .info ("Cleaning generated modules in: " ++ folder.text) with
      disk := dropStale p.disk folder }
  else p

def writeFile (policy : Policy) (o : Occasion) (folder : Path) (f : Text × Text)
    (p : Progress) : Progress :=
  let path := folder.join (.ofText f.1)
  match p.disk.writeText o.word policy.atomic path f.2 with
  | (d, .ok _) =>
    { p with disk := d, records := p.records ++ [.ofContent f.1 path.text f.2] }
  | (d, .error fault) => { p with disk := d }.refuse fault ("Failed to write " ++ f.1)

def writeFiles (policy : Policy) (o : Occasion) (folder : Path) (files : List (Text × Text))
    (p : Progress) : Progress :=
  (files.foldl (fun p f => p.andThen (writeFile policy o folder f)) p).andThen fun p =>
    p.note .info ("Wrote " ++ Text.decimal p.records.length ++ " generated files to "
      ++ folder.text ++ ".")

/-- Writes the manifest, always through a temporary file. -/
def writeManifest (policy : Policy) (o : Occasion) (folder : Path) (p : Progress) : Progress :=
  if policy.withManifest then
    match p.disk.writeText o.word true (folder.child manifestFile)
        ((p.manifest o folder).json ++ "\n") with
    | (d, .ok _) => { p with disk := d }
    | (d, .error f) =>
      if f.isTrouble then
        { p.note .warning ("Failed to write manifest: " ++ f.message) with
          disk := d, warnings := p.warnings ++ ["Could not write manifest: " ++ f.message] }
      else { p with disk := d, fault? := some f }
  else p

/-- Says how the export has ended. -/
def conclude (o : Occasion) (folder : Path) (p : Progress) : Progress :=
  let seconds := Decimal.fixed 3 o.seconds ++ "s."
  if p.success then
    let m := p.manifest o folder
    p.note .info ("Export completed successfully: " ++ Text.decimal m.totalFiles ++ " files, "
      ++ Text.decimal m.totalBytes ++ " bytes, " ++ seconds)
  else p.note .error ("Export completed with " ++ Text.decimal p.errors.length ++ " error(s) in "
    ++ seconds)

/-- Exports files to a folder, which is given by its absolute path. -/
def toFolder (d : Disk) (policy : Policy) (o : Occasion) (folder : Path)
    (files : List (Text × Text)) : Progress :=
  let p : Progress := match d.ensureFolder folder with
    | (d, .error f) => { disk := d : Progress }.refuse f "Fatal export error"
    | (d, .ok ()) =>
      (writeFiles policy o folder files (cleanFolder policy folder { disk := d })).andThen
        (writeManifest policy o folder)
  p.andThen (conclude o folder)

end ValidatorGen.Export
