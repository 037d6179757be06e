import ValidatorGen.Text.Split
import ValidatorGen.Yaml.Stamp

/-!
# Tags

A tag says what kind of value a node is.  A plain scalar without one has a tag that follows from
its text.
-/

namespace ValidatorGen.Yaml

inductive Tag
  | null
  | bool
  | int
  | float
  | binary
  | timestamp
  | text
  | list
  | map
  | set
  /-- A list of mappings with one entry each, in order. -/
  | orderedMap
  /-- The same, where a key may occur more than once. -/
  | pairs
  /-- The key of a mapping whose entries are merged in. -/
  | merge
  /-- The key of the value that a mapping stands for. -/
  | value
  /-- A tag without a meaning. -/
  | unknown
  deriving DecidableEq, Repr

namespace Tag

/-- What the names of all tags with a meaning start with. -/
def stem : Text := "tag:yaml.org,2002:"

def names : List (Text × Tag) :=
  [("null", null), ("bool", bool), ("int", int), ("float", float), ("binary", binary),
    ("timestamp", timestamp), ("str", text), ("seq", list), ("map", map), ("set", set),
    ("omap", orderedMap), ("pairs", pairs), ("merge", merge), ("value", value)]

/-- The tag of this full name. -/
def ofName (s : Text) : Tag :=
  ((names.find? fun n => stem ++ n.1 == s).map Prod.snd).getD unknown

/-! ### Tags of plain scalars -/

def nulls : List Text := ["", "~", "null", "Null", "NULL"]

def booleans : List Text :=
  ["yes", "Yes", "YES", "no", "No", "NO", "true", "True", "TRUE", "false", "False", "FALSE",
    "on", "On", "ON", "off", "Off", "OFF"]

def isDigitOr_ (c : CodePoint) : Bool := c.isDigit || c = '_'

/-- The text without a sign in front. -/
def unsigned : Text → Text
  | .char '+' :: r => r
  | .char '-' :: r => r
  | r => r

/-- A digit and then digits and underscores. -/
def isWhole (s : Text) : Bool := s.head?.any CodePoint.isDigit && s.all isDigitOr_

/-- Minutes or seconds: up to 59. -/
def isSixtieth (s : Text) : Bool :=
  match s with
  | [a] => a.isDigit
  | [a, b] => '0' ≤ a && a ≤ '5' && b.isDigit
  | _ => false

/-- A whole number in base 2, 8, 10, 16 or 60. -/
def isInt (s : Text) : Bool :=
  match unsigned s with
  | .char '0' :: .char 'b' :: r => !r.isEmpty && r.all fun c => c = '0' || c = '1' || c = '_'
  | .char '0' :: .char 'x' :: r =>
    !r.isEmpty && r.all fun c => isDigitOr_ c || 'a' ≤ c && c ≤ 'f' || 'A' ≤ c && c ≤ 'F'
  | .char '0' :: r => r.all fun c => '0' ≤ c && c ≤ '7' || c = '_'
  | r =>
    match Text.splitOn ':' r with
    | whole :: parts => isWhole whole && parts.all isSixtieth
    | [] => false

/-- An exponent with its sign, or nothing. -/
def isExponent (s : Text) : Bool :=
  match s with
  | [] => true
  | e :: sign :: r =>
    (e = 'e' || e = 'E') && (sign = '+' || sign = '-') && !r.isEmpty && r.all CodePoint.isDigit
  | _ => false

/-- A decimal: with a point, perhaps with an exponent. -/
def isDecimal (s : Text) : Bool :=
  isWhole (s.takeWhile (!·.is '.'))
    && match s.dropWhile (!·.is '.') with
      | _ :: r => isExponent (r.dropWhile isDigitOr_)
      | [] => false

/-- A decimal in base 60: with a point, without an exponent. -/
def isSixtieths (s : Text) : Bool :=
  match Text.splitOn ':' (s.takeWhile (!·.is '.')), s.dropWhile (!·.is '.') with
  | whole :: part :: parts, _ :: r =>
    isWhole whole && (part :: parts).all isSixtieth && r.all isDigitOr_
  | _, _ => false

def infinities : List Text := [".inf", ".Inf", ".INF"]

def notANumbers : List Text := [".nan", ".NaN", ".NAN"]

/-- A number that is written with a point. -/
def isFloat (s : Text) : Bool :=
  let r := unsigned s
  isDecimal r || isSixtieths r || infinities.contains r
    || notANumbers.contains s
    || match s with
      | .char '.' :: c :: r => c.isDigit && isExponent (r.dropWhile isDigitOr_)
      | _ => false

/-- Signs that stand for something else where they are alone. -/
def signs : List Text := ["!", "&", "*"]

/-- A line feed at the end does not count, but it is not nothing. -/
def withoutLineFeed (s : Text) : Text :=
  if s.length > 1 && s.getLast? = some (.char '\n') then s.dropLast else s

/-- The tag of a plain scalar of this text. -/
def ofPlain (s : Text) : Tag :=
  let s := withoutLineFeed s
  if nulls.contains s then null
  else if booleans.contains s then bool
  else if isFloat s then float
  else if isInt s then int
  else if s = "<<" then merge
  else if (Stamp.ofText? s).any (·.isPlain) then timestamp
  else if s = "=" then value
  else if signs.contains s then unknown
  else text

end Tag

end ValidatorGen.Yaml
