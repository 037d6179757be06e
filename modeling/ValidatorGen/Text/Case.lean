import ValidatorGen.Text.CaseTable
import ValidatorGen.Text.CodePoint

/-!
# Changing case

Both directions work character by character and may lengthen a text (`İ`, `ß`).  The one place
where the neighbours matter is the capital sigma: at the end of a word it becomes `ς`, elsewhere
`σ`.
-/

namespace ValidatorGen.Text

/-- The image of a character under a mapping given by expansions and runs. -/
def mapCase (expansions : List (Nat × List Nat)) (runs : List CaseRun) (c : CodePoint) : Text :=
  match expansions.lookup c.toNat with
  | some ns => ns.map CodePoint.ofNat
  | none => [CodePoint.ofNat ((runs.findSome? (·.image? c.toNat)).getD c.toNat)]

/-- The lower case of a character that stands alone. -/
def lowerChar (c : CodePoint) : Text :=
  if c.toNat < 0x80 then [c.toLower] else mapCase lowerExpansions lowerRuns c

/-- The upper case of a character. -/
def upperChar (c : CodePoint) : Text :=
  if c.toNat < 0x80 then [c.toUpper] else mapCase upperExpansions upperRuns c

/-! ### The capital sigma -/

/-- Skipping ignorable characters, the first of the text is cased. -/
def meetsCased (s : Text) : Bool :=
  match s.dropWhile (caseIgnorableRanges.holds ·.toNat) with
  | [] => false
  | c :: _ => casedRanges.holds c.toNat

/-- The lower case of the capital sigma between two texts, the first one last character first. -/
def lowerSigma (before behind : Text) : CodePoint :=
  if meetsCased before && !meetsCased behind then 'ς' else 'σ'

/-- The lower case of `s`, where `before` is the text in front of it, last character first. -/
def lowerFrom (before : Text) : Text → Text
  | [] => []
  | c :: r =>
    (if c = 'Σ' then [lowerSigma before r] else lowerChar c)
      ++ lowerFrom (c :: before) r

/-! ### Whole texts -/

/-- The text in lower case. -/
def lower (s : Text) : Text := lowerFrom [] s

/-- The text in upper case. -/
def upper (s : Text) : Text := s.flatMap upperChar

end ValidatorGen.Text
