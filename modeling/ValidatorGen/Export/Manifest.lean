import ValidatorGen.Json.Quoted
import ValidatorGen.Text.Digest
import ValidatorGen.Text.Lines
import ValidatorGen.Text.Whole

/-!
# Manifests

A manifest lists the files that an export has written, with sizes and checksums.  Its totals are
the sums over the list.
-/

namespace ValidatorGen

/-- The release that generated modules come from. -/
def release : Text := "1.0.0"

/-- A written file. -/
structure FileRecord where
  relativePath : Text
  absolutePath : Text
  sizeBytes : Nat
  lineCount : Nat
  sha256 : Text
  deriving DecidableEq, Repr

/-- The record of a file with this content. -/
def FileRecord.ofContent (relativePath absolutePath content : Text) : FileRecord where
  relativePath := relativePath
  absolutePath := absolutePath
  sizeBytes := (Text.Utf8.encode content).length
  lineCount := Text.countLines content
  sha256 := Text.sha256 content

structure Manifest where
  timestamp : Text
  outputDirectory : Text
  files : List FileRecord
  deriving DecidableEq, Repr

namespace Manifest

def totalFiles (m : Manifest) : Nat := m.files.length

def totalBytes (m : Manifest) : Nat := m.files.foldr (fun r n => r.sizeBytes + n) 0

def totalLines (m : Manifest) : Nat := m.files.foldr (fun r n => r.lineCount + n) 0

/-- The checksum of the first file with this name. -/
def checksum? (m : Manifest) (relativePath : Text) : Option Text :=
  (m.files.find? (·.relativePath == relativePath)).map (·.sha256)

/-- Lines that are separated by commas. -/
def commaLines (ls : List Text) : Text := Text.join ",\n" ls

/-- An entry of a JSON object. -/
def entry (margin key value : Text) : Text := margin ++ Json.quoted key ++ ": " ++ value

def recordJson (r : FileRecord) : Text :=
  "    \x7b\n"
    ++ commaLines
      [entry "      " "relative_path" (Json.quoted r.relativePath),
        entry "      " "size_bytes" (Text.decimal r.sizeBytes),
        entry "      " "line_count" (Text.decimal r.lineCount),
        entry "      " "sha256" (Json.quoted r.sha256)]
    ++ "\n    \x7d"

/-- The manifest as JSON, indented by two spaces. -/
def json (m : Manifest) : Text :=
  let files : Text := if m.files.isEmpty then "[]"
    else "[\n" ++ commaLines (m.files.map recordJson) ++ "\n  ]"
  "\x7b\n"
    ++ commaLines
      [entry "  " "generator_version" (Json.quoted release),
        entry "  " "export_timestamp" (Json.quoted m.timestamp),
        entry "  " "output_directory" (Json.quoted m.outputDirectory),
        entry "  " "total_files" (Text.decimal m.totalFiles),
        entry "  " "total_bytes" (Text.decimal m.totalBytes),
        entry "  " "total_lines" (Text.decimal m.totalLines),
        entry "  " "files" files]
    ++ "\n\x7d"

end Manifest

end ValidatorGen
