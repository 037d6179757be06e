import ValidatorGen.Json.Reader
import ValidatorGen.Yaml.Fault
import ValidatorGen.Yaml.Scalar.Plain

/-!
# Quoted scalars

Between single quotes a quote is written twice.  Between double quotes a backslash starts an
escape, and one at the end of a line takes the line break away.  Blanks around line breaks are
dropped, and the breaks are read as in a plain scalar.
-/

namespace ValidatorGen.Yaml.Quoted

/-- What a single character means behind a backslash. -/
def escape? (c : CodePoint) : Option CodePoint :=
  match c with
  | .char '0' => some '\x00'
  | .char 'a' => some '\x07'
  | .char 'b' => some '\x08'
  | .char 't' => some '\t'
  | .char '\t' => some '\t'
  | .char 'n' => some '\n'
  | .char 'v' => some '\x0b'
  | .char 'f' => some '\x0c'
  | .char 'r' => some '\r'
  | .char 'e' => some '\x1b'
  | .char ' ' => some ' '
  | .char '"' => some '"'
  | .char '\\' => some '\\'
  | .char '/' => some '/'
  | .char 'N' => some '\x85'
  | .char '_' => some '\xa0'
  | .char 'L' => some '\u2028'
  | .char 'P' => some '\u2029'
  | _ => none

/-- How many hexadecimal digits follow this character behind a backslash. -/
def escapeDigits? (c : CodePoint) : Option Nat :=
  match c with
  | .char 'x' => some 2
  | .char 'u' => some 4
  | .char 'U' => some 8
  | _ => none

/-- The character that so many hexadecimal digits at the start of a text stand for. -/
def numbered (digits : Nat) (s : Text) : Except Fault CodePoint :=
  let ds := s.take digits
  match ds.mapM Json.hexDigit? with
  | none => .error .malformed
  | some vs =>
    let n := Text.ofDigits 16 vs
    if ds.length < digits then .error .malformed
    else if 0x10FFFF < n then .error (.noCharacter n)
    else .ok (CodePoint.ofNat n)

/-- Line breaks with blanks and tabs around them; a document marker must not stand there. -/
def breaks : Nat → Cursor → Except Fault (Text × Cursor)
  | 0, _ => .error .malformed
  | n + 1, c =>
    if c.atDocumentMarker then .error .malformed
    else
      let c := c.skipWhile isGap
      match c.head? with
      | none => .ok ([], c)
      | some ch =>
        if isBreak ch then do
          let (s, c) ← breaks n c.next
          pure (breakChar ch :: s, c)
        else .ok ([], c)

/-- Reads a gap: blanks and tabs, or line breaks with what is around them. -/
def gap (c : Cursor) : Except Fault (Text × Cursor) :=
  let blanks := c.rest.takeWhile isGap
  let c := c.skip blanks.length
  match c.head? with
  | none => .error .malformed
  | some ch =>
    if isBreak ch then do
      let (s, c) ← breaks (c.left + 1) c.next
      pure (foldBreaks (breakChar ch) s, c)
    else .ok (blanks, c)

/-- Reads an escape behind its backslash. -/
def escaped (c : Cursor) : Except Fault (Text × Cursor) :=
  match c.head? with
  | none => .error .malformed
  | some ch =>
    match escape? ch, escapeDigits? ch with
    | some d, _ => .ok ([d], c.next)
    | none, some n => do
      let d ← numbered n c.next.rest
      pure ([d], c.next.skip n)
    | none, none =>
      if isBreak ch then breaks (c.left + 1) c.next else .error .malformed

/-- Reads what stands before the closing quote, and the quote. -/
def body (double : Bool) : Nat → Cursor → Except Fault (Text × Cursor)
  | 0, _ => .error .malformed
  | n + 1, c =>
    let piece : Except Fault (Option (Text × Cursor)) :=
      match c.rest with
      | [] => .error .malformed
      | ch :: r =>
        if !double && ch = '\'' && r.head? = some (.char '\'') then .ok (some ("'", c.skip 2))
        else if ch = (if double then '"' else '\'') then .ok none
        else if double && ch = '\\' then (escaped c.next).map some
        else if isGap ch || isBreak ch then (gap c).map some
        else .ok (some ([ch], c.next))
    match piece with
    | .error f => .error f
    | .ok none => .ok ([], c.next)
    | .ok (some (s, c)) => do
      let (t, c) ← body double n c
      pure (s ++ t, c)

/-- Reads a quoted scalar from its opening quote on. -/
def scan (double : Bool) (c : Cursor) : Except Fault (Text × Cursor) :=
  body double c.left c.next

end ValidatorGen.Yaml.Quoted
