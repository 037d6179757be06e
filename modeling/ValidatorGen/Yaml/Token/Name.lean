import ValidatorGen.Json.Reader
import ValidatorGen.Text.Utf8
import ValidatorGen.Yaml.Cursor
import ValidatorGen.Yaml.Fault
import ValidatorGen.Yaml.Token

/-!
# Anchors, tags and directives

The tokens that carry names.  In a tag a character may be written as the hexadecimal digits of its
bytes behind percent signs.
-/

namespace ValidatorGen.Yaml

def isLetterOrDigit (c : CodePoint) : Bool :=
  '0' ≤ c && c ≤ '9' || 'A' ≤ c && c ≤ 'Z' || 'a' ≤ c && c ≤ 'z'

/-- A character of the name of an anchor, a handle or a directive. -/
def isNameChar (c : CodePoint) : Bool := isLetterOrDigit c || c = '-' || c = '_'

/-- Takes a name, which has at least one character. -/
def name? (c : Cursor) : Except Fault (Text × Cursor) :=
  let s := c.rest.takeWhile isNameChar
  if s.isEmpty then .error .malformed else .ok (s, c.skip s.length)

/-- The signs that may stand directly behind the name of an anchor. -/
def anchorEnds : Text := "?:,]\x7d%@`"

/-- Reads the name of an anchor or alias behind its sign. -/
def scanAnchor (c : Cursor) : Except Fault (Text × Cursor) := do
  let (name, c) ← name? c
  if separates c.head? || c.head?.any anchorEnds.contains then pure (name, c)
  else throw .malformed

/-! ### Tags -/

/-- The signs that stand for themselves in a tag. -/
def tagSigns : Text := "-;/?:@&=+$,_.!~*'()[]"

def isTagChar (c : CodePoint) : Bool := isLetterOrDigit c || tagSigns.contains c

/-- Takes the bytes that are written as digits behind percent signs. -/
def percentBytes : Nat → Cursor → Except Fault (List UInt8 × Cursor)
  | 0, _ => .error .malformed
  | n + 1, c =>
    match c.rest with
    | .char '%' :: a :: b :: _ =>
      match Json.hexDigit? a, Json.hexDigit? b with
      | some x, some y => do
        let (bs, c) ← percentBytes n (c.skip 3)
        pure (UInt8.ofNat (16 * x + y) :: bs, c)
      | _, _ => .error .malformed
    | .char '%' :: _ => .error .malformed
    | _ => .ok ([], c)

/-- Takes the characters of a tag. -/
def tagChars : Nat → Cursor → Except Fault (Text × Cursor)
  | 0, _ => .error .malformed
  | n + 1, c =>
    match c.head? with
    | none => .ok ([], c)
    | some ch =>
      if ch = '%' then do
        let (bs, c) ← percentBytes (c.left + 1) c
        let .ok s := Text.Utf8.decode bs | throw .malformed
        let (t, c) ← tagChars n c
        pure (s ++ t, c)
      else if isTagChar ch then do
        let (t, c) ← tagChars n c.next
        pure (ch :: t, c)
      else .ok ([], c)

/-- Takes the suffix of a tag, which is not empty. -/
def tagSuffix (c : Cursor) : Except Fault (Text × Cursor) := do
  let (s, behind) ← tagChars (c.left + 1) c
  if behind.index = c.index then throw .malformed
  pure (s, behind)

/-- Takes a tag handle: an exclamation mark alone, or a perhaps empty name between two of them. -/
def tagHandle (c : Cursor) : Except Fault (Text × Cursor) :=
  match c.rest with
  | .char '!' :: r =>
    if r.head? = some ' ' then .ok ("!", c.next)
    else
      let s := r.takeWhile isNameChar
      if (r.drop s.length).head? = some '!' then
        .ok ("!" ++ s ++ "!", c.skip (s.length + 2))
      else .error .malformed
  | _ => .error .malformed

/-- Reads a tag. -/
def scanTag (c : Cursor) : Except Fault (Token × Cursor) := do
  let second := c.rest.tail.head?
  let (t, c) : Token × Cursor ←
    if second = some '<' then do
      let (s, c) ← tagSuffix (c.skip 2)
      if c.head? = some '>' then pure (.tag none s, c.next) else throw .malformed
    else if separates second then pure (.tag none "!", c.next)
    else if (c.rest.tail.takeWhile fun ch => !endsWord (some ch)).contains '!' then do
      let (h, c) ← tagHandle c
      let (s, c) ← tagSuffix c
      pure (.tag (some h) s, c)
    else do
      let (s, c) ← tagSuffix c.next
      pure (.tag (some "!") s, c)
  if endsWord c.head? then pure (t, c) else throw .malformed

/-! ### Directives -/

/-- Takes a number. -/
def number? (c : Cursor) : Except Fault (Nat × Cursor) :=
  let s := c.rest.takeWhile CodePoint.isDigit
  if s.isEmpty then .error .malformed
  else if Text.maxDigits < s.length then .error (.longNumber s.length)
  else .ok (Text.ofDigits 10 (Decimal.digitsOf s), c.skip s.length)

/-- The value of a version directive. -/
def versionValue (c : Cursor) : Except Fault (Token × Cursor) := do
  let (major, c) ← number? (c.skipWhile (·.is ' '))
  if c.head? ≠ some '.' then throw .malformed
  let (_, c) ← number? c.next
  if endsWord c.head? then pure (.version major, c) else throw .malformed

/-- The value of a directive for a tag handle. -/
def handleValue (c : Cursor) : Except Fault (Token × Cursor) := do
  let (h, c) ← tagHandle (c.skipWhile (·.is ' '))
  if c.head? ≠ some ' ' then throw .malformed
  let (s, c) ← tagSuffix (c.skipWhile (·.is ' '))
  if endsWord c.head? then pure (.handle h s, c) else throw .malformed

/-- Reads a directive behind its percent sign, to the end of the line. -/
def scanDirective (c : Cursor) : Except Fault (Token × Cursor) := do
  let (name, c) ← name? c
  if !endsWord c.head? then throw .malformed
  let (t, c) ←
    if name = "YAML" then versionValue c
    else if name = "TAG" then handleValue c
    else pure (.reserved, c.skipLine)
  let some c := c.endLine? | throw .malformed
  pure (t, c)

end ValidatorGen.Yaml
