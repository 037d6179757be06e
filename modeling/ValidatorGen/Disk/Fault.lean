import ValidatorGen.Text.Display
import ValidatorGen.Text.Utf8
import ValidatorGen.Text.Whole

/-!
# What the disk refuses

Each trouble has a number and a text; a fault names the path, and for a move the target too.  The
other faults are not the disk's own: a path that holds a null character, a file that is no UTF-8,
and a text that has no form in UTF-8.
-/

namespace ValidatorGen

inductive Trouble
  | noEntry
  | busy
  | taken
  | notFolder
  | isFolder
  | nameTooLong
  deriving DecidableEq, Repr

namespace Trouble

def number : Trouble → Nat
  | noEntry => 2
  | busy => 16
  | taken => 17
  | notFolder => 20
  | isFolder => 21
  | nameTooLong => 36

def text : Trouble → Text
  | noEntry => "No such file or directory"
  | busy => "Device or resource busy"
  | taken => "File exists"
  | notFolder => "Not a directory"
  | isFolder => "Is a directory"
  | nameTooLong => "File name too long"

/-- The class of errors that a trouble belongs to. -/
def className : Trouble → Text
  | noEntry => "FileNotFoundError"
  | taken => "FileExistsError"
  | notFolder => "NotADirectoryError"
  | isFolder => "IsADirectoryError"
  | _ => "OSError"

end Trouble

inductive DiskFault
  | trouble (t : Trouble) (path : Text) (target? : Option Text)
  | nullCharacter
  | undecodable (f : Text.Utf8.Fault)
  | unencodable (h : Text.Utf8.Halves)
  deriving DecidableEq, Repr

namespace DiskFault

/-- Trouble with one path. -/
def of (t : Trouble) (path : Text) : DiskFault := trouble t path none

def className : DiskFault → Text
  | trouble t .. => t.className
  | nullCharacter => "ValueError"
  | undecodable _ => "UnicodeDecodeError"
  | unencodable _ => "UnicodeEncodeError"

/-- What is said of bytes that are no UTF-8. -/
def undecodableText (f : Text.Utf8.Fault) : Text :=
  "'utf-8' codec can't decode "
    ++ (if f.length = 1 then
        "byte 0x" ++ Text.hex 2 f.byte.toNat ++ " in position "
          ++ Text.decimal f.position
      else
        "bytes in position " ++ Text.decimal f.position ++ "-"
          ++ Text.decimal (f.position + f.length - 1))
    ++ ": " ++ f.flaw.text

/-- What is said of a text with halves of surrogate pairs. -/
def unencodableText (h : Text.Utf8.Halves) : Text :=
  "'utf-8' codec can't encode "
    ++ (if h.length = 1 then
        "character '\\u" ++ Text.hex 4 h.first ++ "' in position "
          ++ Text.decimal h.position
      else
        "characters in position " ++ Text.decimal h.position ++ "-"
          ++ Text.decimal (h.position + h.length - 1))
    ++ ": surrogates not allowed"

def message : DiskFault → Text
  | trouble t path target? =>
    "[Errno " ++ Text.decimal t.number ++ "] " ++ t.text ++ ": " ++ Text.display path
      ++ ((target?.map fun p => " -> " ++ Text.display p).getD "")
  | nullCharacter => "embedded null byte"
  | undecodable f => undecodableText f
  | unencodable h => unencodableText h

/-- The disk itself refuses; the other faults lie in what was asked for. -/
def isTrouble : DiskFault → Bool
  | trouble .. => true
  | _ => false

end DiskFault

end ValidatorGen
