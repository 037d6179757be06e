import ValidatorGen.Decimal.Read
import ValidatorGen.Document.Value
import ValidatorGen.Ordered
import ValidatorGen.Text.Split

/-!
# Reading JSON

A JSON text becomes a document.  Beside JSON proper the numbers `NaN`, `Infinity` and `-Infinity`
are read.  What is wrong with a text is said with the place, as line, column and offset; of two
entries of an object with one name, the later value stands at the earlier place.
-/

namespace ValidatorGen.Json

/-- What can be wrong with a JSON text. -/
inductive Flaw
  | byteOrderMark
  | extraData
  | noValue
  | noName
  | noColon
  | noComma
  | controlCharacter
  | unterminated
  | badEscape
  | badUnicodeEscape
  deriving DecidableEq, Repr

def Flaw.text : Flaw → Text
  | byteOrderMark => "Unexpected UTF-8 BOM (decode using utf-8-sig)"
  | extraData => "Extra data"
  | noValue => "Expecting value"
  | noName => "Expecting property name enclosed in double quotes"
  | noColon => "Expecting ':' delimiter"
  | noComma => "Expecting ',' delimiter"
  | controlCharacter => "Invalid control character at"
  | unterminated => "Unterminated string starting at"
  | badEscape => "Invalid \\escape"
  | badUnicodeEscape => "Invalid \\uXXXX escape"

/-- Why a text is refused. -/
inductive Trouble
  /-- A flaw, in front of so many last characters of the text. -/
  | flaw (f : Flaw) (left : Nat)
  /-- A whole number with so many digits. -/
  | longNumber (digits : Nat)
  /-- Lists and objects are too deep inside each other; the last one is a list, or an object. -/
  | tooDeep (isList : Bool)
  deriving DecidableEq, Repr

/-- A flaw in front of a rest of the text. -/
def flawed {α : Type} (f : Flaw) (rest : Text) : Except Trouble α :=
  .error (.flaw f rest.length)

def isSpace (c : CodePoint) : Bool := c = ' ' || c = '\t' || c = '\n' || c = '\r'

def skipSpace (s : Text) : Text := s.dropWhile isSpace

/-! ### Strings -/

def hexDigit? (c : CodePoint) : Option Nat :=
  if '0' ≤ c ∧ c ≤ '9' then some (c.toNat - '0'.toNat)
  else if 'a' ≤ c ∧ c ≤ 'f' then some (c.toNat - 'a'.toNat + 10)
  else if 'A' ≤ c ∧ c ≤ 'F' then some (c.toNat - 'A'.toNat + 10)
  else none

/-- The number of four hexadecimal digits that are not the last characters. -/
def fourHex? : Text → Option (Nat × Text)
  | a :: b :: c :: d :: e :: r => do
    let ds ← [a, b, c, d].mapM hexDigit?
    pure (Text.ofDigits 16 ds, e :: r)
  | _ => none

/-- What a single character means behind a backslash. -/
def simpleEscape? (c : CodePoint) : Option CodePoint :=
  match c with
  | .char '"' => some '"'
  | .char '\\' => some '\\'
  | .char '/' => some '/'
  | .char 'b' => some '\x08'
  | .char 'f' => some '\x0c'
  | .char 'n' => some '\n'
  | .char 'r' => some '\r'
  | .char 't' => some '\t'
  | _ => none

/-- Reads behind `\u`: one character, for which a surrogate pair takes two escapes. -/
def unicodeEscape (s : Text) : Except Trouble (CodePoint × Text) :=
  match fourHex? s with
  | none => .error (.flaw .badUnicodeEscape (s.length + 1))
  | some (n, r) =>
    if CodePoint.isHighHalf n then
      match r with
      | .char '\\' :: .char 'u' :: t =>
        if t.length < 5 then .ok (CodePoint.ofNat n, r)
        else match fourHex? t with
          | none => .error (.flaw .badUnicodeEscape (t.length + 1))
          | some (m, r') =>
            if CodePoint.isLowHalf m then .ok (CodePoint.ofNat (CodePoint.joinHalves n m), r')
            else .ok (CodePoint.ofNat n, r)
      | r => .ok (CodePoint.ofNat n, r)
    else .ok (CodePoint.ofNat n, r)

theorem length_fourHex? {s r : Text} {n : Nat} (h : fourHex? s = some (n, r)) :
    r.length < s.length := by
  unfold fourHex? at h
  split at h
  · obtain ⟨ds, -, h⟩ := Option.bind_eq_some_iff.1 h
    cases h
    simp
  · cases h

theorem length_unicodeEscape {s r : Text} {c : CodePoint} (h : unicodeEscape s = .ok (c, r)) :
    r.length < s.length := by
  unfold unicodeEscape at h
  split at h
  · cases h
  · rename_i n t ht
    have hs := length_fourHex? ht
    split at h
    · split at h
      · split at h
        · cases h
          exact hs
        · split at h
          · cases h
          · rename_i m u hu
            have hu := length_fourHex? hu
            split at h <;> obtain ⟨-, rfl⟩ := Prod.mk.inj (Except.ok.inj h)
            · simp only [List.length_cons] at hs
              omega
            · exact hs
      · cases h
        exact hs
    · cases h
      exact hs

/-- Reads on in a string; `whole` is all behind its opening quote, and `read` is what was read of
it, the last character first. -/
def stringBody (whole read s : Text) : Except Trouble (Text × Text) :=
  match s with
  | [] => .error (.flaw .unterminated (whole.length + 1))
  | c :: r =>
    if c = '"' then .ok (read.reverse, r)
    else if c = '\\' then
      match r with
      | [] => .error (.flaw .unterminated (whole.length + 1))
      | .char 'u' :: t =>
        match h : unicodeEscape t with
        | .error f => .error f
        | .ok (d, u) =>
          have := length_unicodeEscape h
          stringBody whole (d :: read) u
      | e :: t =>
        match simpleEscape? e with
        | none => flawed .badEscape (c :: r)
        | some d => stringBody whole (d :: read) t
    else if c.toNat < 0x20 then flawed .controlCharacter (c :: r)
    else stringBody whole (c :: read) r
termination_by s.length
decreasing_by all_goals simp <;> omega

/-- Reads a string behind its opening quote. -/
def string (s : Text) : Except Trouble (Text × Text) := stringBody s [] s

/-! ### Numbers -/

/-- Takes the digits of a whole number: a zero alone, or digits that start with another one. -/
def wholeDigits? : Text → Option (Text × Text)
  | .char '0' :: r => some ("0", r)
  | c :: r =>
    if c.isDigit then
      some ((c :: r).takeWhile CodePoint.isDigit, (c :: r).dropWhile CodePoint.isDigit)
    else none
  | [] => none

/-- Takes a point and digits behind it. -/
def fraction (s : Text) : Text × Text :=
  match s with
  | .char '.' :: r =>
    if (r.takeWhile CodePoint.isDigit).isEmpty then ([], s)
    else ('.' :: r.takeWhile CodePoint.isDigit, r.dropWhile CodePoint.isDigit)
  | s => ([], s)

/-- Takes an exponent with its mark. -/
def exponent (s : Text) : Text × Text :=
  match s with
  | e :: r =>
    if e = 'e' ∨ e = 'E' then
      let (sign, t) : Text × Text := match r with
        | .char '+' :: t => ("+", t)
        | .char '-' :: t => ("-", t)
        | t => ("", t)
      if (t.takeWhile CodePoint.isDigit).isEmpty then ([], s)
      else (e :: (sign ++ t.takeWhile CodePoint.isDigit), t.dropWhile CodePoint.isDigit)
    else ([], s)
  | [] => ([], [])

/-- Reads a number without its sign. -/
def unsigned (negative : Bool) (s : Text) : Option (Except Trouble Document × Text) := do
  let (whole, r) ← wholeDigits? s
  let (places, r) := fraction r
  let (power, r) := exponent r
  if places.isEmpty && power.isEmpty then
    if Text.maxDigits < whole.length then pure (.error (.longNumber whole.length), r)
    else
      let n : Int := Text.ofDigits 10 (Decimal.digitsOf whole)
      pure (.ok (.int (if negative then -n else n)), r)
  else
    let x ← Decimal.readUnsigned? negative (whole ++ places ++ power)
    pure (.ok (.float x), r)

/-- Reads a number. -/
def number (s : Text) : Except Trouble (Document × Text) :=
  let read := match s with
    | .char '-' :: r => unsigned true r
    | r => unsigned false r
  match read with
  | none => flawed .noValue s
  | some (.error t, _) => .error t
  | some (.ok d, r) => .ok (d, r)

/-! ### Values -/

/-- The values that are written as words. -/
def words : List (Text × Document) :=
  [("null", .null), ("true", .bool true), ("false", .bool false), ("NaN", .float (0.0 / 0.0)),
    ("Infinity", .float (1.0 / 0.0)), ("-Infinity", .float (-1.0 / 0.0))]

/-- Reads a word. -/
def word? (s : Text) : Option (Document × Text) :=
  words.findSome? fun w => (Text.dropStart? w.1 s).map fun r => (w.2, r)

mutual

/-- Reads one value with at most `room` lists and objects inside each other; the first argument
bounds the depth and the length. -/
def value : Nat → Nat → Text → Except Trouble (Document × Text)
  | 0, _, s => flawed .noValue s
  | n + 1, room, s =>
    match s, room with
    | .char '"' :: r, _ => (string r).map fun p => (.text p.1, p.2)
    | .char '{' :: _, 0 => .error (.tooDeep false)
    | .char '{' :: r, room + 1 =>
      match skipSpace r with
      | .char '}' :: r => .ok (.map [], r)
      | r => (members n room r []).map fun p => (.map p.1, p.2)
    | .char '[' :: _, 0 => .error (.tooDeep true)
    | .char '[' :: r, room + 1 =>
      match skipSpace r with
      | .char ']' :: r => .ok (.list [], r)
      | r => (elements n room r []).map fun p => (.list p.1, p.2)
    | s, _ =>
      match word? s with
      | some p => .ok p
      | none => number s

/-- Reads the values of a list behind its opening bracket, after those that were read, the last of
which comes first. -/
def elements : Nat → Nat → Text → List Document → Except Trouble (List Document × Text)
  | 0, _, s, _ => flawed .noValue s
  | n + 1, room, s, read =>
    match value n room s with
    | .error t => .error t
    | .ok (v, r) =>
      match skipSpace r with
      | .char ']' :: r => .ok ((v :: read).reverse, r)
      | .char ',' :: r => elements n room (skipSpace r) (v :: read)
      | r => flawed .noComma r

/-- Reads the entries of an object behind its opening brace, after those that were read. -/
def members : Nat → Nat → Text → List (Document × Document) →
    Except Trouble (List (Document × Document) × Text)
  | 0, _, s, _ => flawed .noName s
  | n + 1, room, s, read =>
    match s with
    | .char '"' :: r => do
      let (k, r) ← string r
      match skipSpace r with
      | .char ':' :: r => do
        let (v, r) ← value n room (skipSpace r)
        let read := Ordered.putBy Document.same (.text k) v read
        match skipSpace r with
        | .char '}' :: r => pure (read, r)
        | .char ',' :: r => members n room (skipSpace r) read
        | r => flawed .noComma r
      | r => flawed .noColon r
    | s => flawed .noName s

end

/-- Reads a whole text with at most `room` lists and objects inside each other. -/
def read (room : Nat) (s : Text) : Except Trouble Document :=
  if s.head? = some (.char '\uFEFF') then flawed .byteOrderMark s
  else do
    let (v, r) ← value (2 * s.length + 1) room (skipSpace s)
    match skipSpace r with
    | [] => pure v
    | r => flawed .extraData r

/-! ### Wording -/

/-- The place of an offset in a text. -/
def place (s : Text) (offset : Nat) : Text :=
  let before := s.take offset
  let line := before.count (.char '\n') + 1
  let column := (before.reverse.takeWhile (!·.is '\n')).length + 1
  "line " ++ Text.decimal line ++ " column " ++ Text.decimal column ++ " (char "
    ++ Text.decimal offset ++ ")"

/-- What is said of a text that is refused. -/
def Trouble.message (s : Text) : Trouble → Text
  | flaw f left => f.text ++ ": " ++ place s (s.length - left)
  | longNumber n => Text.longNumberMessage n
  | tooDeep isList =>
    "maximum recursion depth exceeded while decoding a JSON "
      ++ (if isList then "array" else "object") ++ " from a unicode string"

end ValidatorGen.Json
