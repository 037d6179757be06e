import ValidatorGen.Document.Value
import ValidatorGen.Text.Case

/-!
# Reports of a check

A check collects items.  An item has a severity, a code, a message and further particulars; only
errors make a report fail.
-/

namespace ValidatorGen.Check

/-- How grave an item is; a label of one's own is neither an error nor a warning. -/
inductive Severity
  | error
  | warning
  | info
  | other (label : Text)
  deriving DecidableEq, Repr

namespace Severity

def ofLabel (l : Text) : Severity :=
  if l = "error" then error
  else if l = "warning" then warning
  else if l = "info" then info
  else other l

def label : Severity → Text
  | error => "error"
  | warning => "warning"
  | info => "info"
  | other l => l

/-- The sign in front of an item in a report. -/
def sign : Severity → Text
  | error => "❌"
  | warning => "⚠️"
  | info => "ℹ️"
  | other _ => "•"

end Severity

/-- One item of a report. -/
structure Item where
  severity : Severity
  code : Text
  message : Text
  particulars : List (Text × Document) := []
  deriving BEq, Repr

namespace Item

def isError (i : Item) : Bool := i.severity = .error

def isWarning (i : Item) : Bool := i.severity = .warning

/-- The item on one line. -/
def text (i : Item) : Text :=
  "[" ++ Text.upper i.severity.label ++ "] " ++ i.code ++ ": " ++ i.message

/-- The item in a report: a line with its message, and one for each of its particulars. -/
def lines (i : Item) : List Text :=
  ("  " ++ i.severity.sign ++ " [" ++ i.code ++ "] " ++ i.message)
    :: i.particulars.map fun p => "       " ++ p.1 ++ ": " ++ p.2.toText

end Item

/-- The items that checks have collected, in order. -/
abbrev Report := List Item

namespace Report

def errors (r : Report) : List Item := r.filter (·.isError)

def warnings (r : Report) : List Item := r.filter (·.isWarning)

def hasErrors (r : Report) : Bool := r.any (·.isError)

def isValid (r : Report) : Bool := !hasErrors r

def summary (r : Report) : Text :=
  "Validation: " ++ Text.decimal (errors r).length ++ " error(s), "
    ++ Text.decimal (warnings r).length ++ " warning(s), "
    ++ Text.decimal r.length ++ " total item(s)."

/-- A one-line view of the report. -/
def describe (r : Report) : Text := "<ValidationResult " ++ summary r ++ ">"

/-- The report on several lines, with or without the items of severity `info`. -/
def text (withInfo : Bool) (r : Report) : Text :=
  Text.join "\n"
    (summary r :: "" :: (r.filter fun i => withInfo || i.severity ≠ .info).flatMap Item.lines)

theorem isValid_append (r s : Report) : isValid (r ++ s) = (isValid r && isValid s) := by
  simp [isValid, hasErrors]

end Report

end ValidatorGen.Check
