import ValidatorGen.Directive
import ValidatorGen.Journal
import ValidatorGen.Text.Lines
import ValidatorGen.Text.Whole

/-!
# Documentation of a field

A line that starts with the sentinel `@zod`, blanks in front allowed, carries a chain of calls if
the sentinel is followed by a dot or by nothing.  Every other line is a comment.
-/

namespace ValidatorGen

/-- Documentation, taken apart: directives and comment lines, each in order. -/
structure Documentation where
  directives : List Directive := []
  comments : List Text := []
  deriving DecidableEq, Repr

namespace Documentation

def sentinel : Text := "@zod"

/-- The chain of a directive line. -/
def chain? (line : Text) : Option Text :=
  let s := Text.trimStart line
  if sentinel.isPrefixOf s then
    match s.drop sentinel.length with
    | [] => some []
    | .char '.' :: r => some ('.' :: r)
    | _ => none
  else none

def isDirectiveLine (line : Text) : Bool := (chain? line).isSome

/-- The directives of one line. -/
def lineDirectives (line : Text) : List Directive :=
  match chain? line with
  | some chain => (Directive.calls (Text.trim chain)).map .ofCall
  | none => []

def ofLines (ls : List Text) : Documentation where
  directives := ls.flatMap lineDirectives
  comments := ls.filter (!isDirectiveLine ·)

/-- The documentation that a text holds. -/
def ofText (text : Text) : Documentation := ofLines (Text.lines text)

/-- Absent documentation holds nothing. -/
def ofText? : Option Text → Documentation
  | none => {}
  | some text => ofText text

def custom? (d : Documentation) : Option Text := Directive.firstCustom d.directives

/-- More than one custom schema is worth a warning. -/
def warnings (d : Documentation) : Journal :=
  let n := (d.directives.filterMap Directive.custom?).length
  if 1 < n then
    [⟨.warning, "zodgen.docs", "Documentation carries " ++ Text.decimal n
      ++ " custom schema overrides; using the first."⟩]
  else []

end Documentation

end ValidatorGen
