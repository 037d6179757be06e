import ValidatorGen.Yaml.Scalar.Block
import ValidatorGen.Yaml.Scalar.Quoted
import ValidatorGen.Yaml.Token.Name

/-!
# Cutting a text into tokens

The lexer keeps the columns of the open block collections.  Anything that may turn out to be a key
is remembered; when a colon follows on the same line, not too far away, the tokens for a key, and
perhaps for the start of a mapping, are put in front of it.  If something is wrong with the text,
the tokens in front of that are still given, as far as no key can be put among them any more.
-/

namespace ValidatorGen.Yaml

/-- Something that may turn out to be a key: the number of tokens before it, and its place. -/
structure KeyStart where
  before : Nat
  /-- In this column of the block nothing but a key may stand. -/
  required : Bool
  index : Nat
  line : Nat
  column : Nat
  deriving Repr

structure Lexer where
  cursor : Cursor
  /-- The tokens so far, the last one first. -/
  tokens : List Token := []
  /-- How many tokens these are. -/
  count : Nat := 0
  /-- The least column inside the innermost block collection. -/
  inner : Nat := 0
  /-- The same for the collections around it. -/
  outer : List Nat := []
  /-- How many flow collections are open. -/
  depth : Nat := 0
  /-- A key may start here. -/
  keyAllowed : Bool := true
  /-- What may turn out to be a key, by depth. -/
  keys : List (Nat × KeyStart) := []
  deriving Repr

namespace Lexer

def inFlow (l : Lexer) : Bool := l.depth ≠ 0

def push (l : Lexer) (t : Token) : Lexer :=
  { l with tokens := t :: l.tokens, count := l.count + 1 }

/-- Puts a token behind the first `before` ones. -/
def insertBehind (l : Lexer) (before : Nat) (t : Token) : Lexer :=
  { l with tokens := l.tokens.insertIdx (l.count - before) t, count := l.count + 1 }

/-- Adds a token of so many characters. -/
def take (l : Lexer) (characters : Nat) (t : Token) : Lexer :=
  { l.push t with cursor := l.cursor.skip characters }

/-! ### Blocks -/

/-- Closes the block collections that lie to the right of a place. -/
def unwindTo (inner : Nat) : List Nat → Lexer → Lexer
  | [], l => l
  | o :: os, l =>
    if inner < l.inner then unwindTo inner os { l.push .blockEnd with inner := o, outer := os }
    else l

/-- Closes the block collections that end in front of a column. -/
def unwind (inner : Nat) (l : Lexer) : Lexer := if l.inFlow then l else unwindTo inner l.outer l

/-- Opens a block collection in a column that lies further to the right. -/
def open? (column : Nat) (l : Lexer) : Option Lexer :=
  if l.inner ≤ column then
    some { l with inner := column + 1, outer := l.inner :: l.outer }
  else none

/-- Opens a block collection here if one has to be opened. -/
def openHere (t : Token) (l : Lexer) : Lexer :=
  match l.open? l.cursor.column with
  | some l => l.push t
  | none => l

/-! ### Keys -/

/-- What may turn out to be a key at this depth is none. -/
def forgetKey (l : Lexer) : Except Fault Lexer :=
  if (l.keys.find? (·.1 = l.depth)).any (·.2.required) then .error .malformed
  else .ok { l with keys := l.keys.filter (·.1 ≠ l.depth) }

/-- Remembers that a key may start here. -/
def rememberKey (l : Lexer) : Except Fault Lexer :=
  if l.keyAllowed then do
    let l ← l.forgetKey
    let c := l.cursor
    pure { l with
      keys := (l.depth, ⟨l.count, !l.inFlow && l.inner = c.column + 1, c.index, c.line,
        c.column⟩) :: l.keys }
  else .ok l

/-- How far away from its start the colon behind a key may be. -/
def maxKey : Nat := 1024

/-- What started on another line or too far away is no key. -/
def isStale (c : Cursor) (k : KeyStart) : Bool := k.line ≠ c.line || maxKey < c.index - k.index

def dropStaleKeys (l : Lexer) : Except Fault Lexer :=
  let stale := l.keys.filter fun k => isStale l.cursor k.2
  if stale.any (·.2.required) then .error .malformed
  else .ok { l with keys := l.keys.filter fun k => !isStale l.cursor k.2 }

/-! ### The single tokens -/

/-- The token of a bracket that opens a flow collection. -/
def flowStart (t : Token) (l : Lexer) : Except Fault Lexer := do
  let l ← l.rememberKey
  pure { l.take 1 t with depth := l.depth + 1, keyAllowed := true }

/-- The token of a bracket that closes a flow collection. -/
def flowEnd (t : Token) (l : Lexer) : Except Fault Lexer := do
  let l ← l.forgetKey
  if l.inFlow then pure { l.take 1 t with depth := l.depth - 1, keyAllowed := false }
  else throw .malformed

def flowEntry (l : Lexer) : Except Fault Lexer := do
  let l ← l.forgetKey
  pure { l.take 1 .flowEntry with keyAllowed := true }

/-- A sign that in a block may open a collection and must stand where a key may start. -/
def blockSign (opening t : Token) (keyAllowed : Bool) (l : Lexer) : Except Fault Lexer := do
  if !l.inFlow && !l.keyAllowed then throw .malformed
  let l := if l.inFlow then l else l.openHere opening
  let l ← l.forgetKey
  pure { l.take 1 t with keyAllowed := keyAllowed }

/-- The colon in front of a value. -/
def value (l : Lexer) : Except Fault Lexer :=
  match l.keys.find? (·.1 = l.depth) with
  | none => l.blockSign .blockMappingStart .value (!l.inFlow)
  | some (_, k) =>
    let l := { l.insertBehind k.before .key with keys := l.keys.filter (·.1 ≠ l.depth) }
    let l := if l.inFlow then l
      else match l.open? k.column with
        | some l => l.insertBehind k.before .blockMappingStart
        | none => l
    .ok { l.take 1 .value with keyAllowed := false }

/-- A token that may be a key or stand in front of one. -/
def item (scan : Cursor → Except Fault (Token × Cursor)) (l : Lexer) : Except Fault Lexer := do
  let l ← l.rememberKey
  let (t, c) ← scan l.cursor
  pure { l.push t with cursor := c, keyAllowed := false }

def plain (l : Lexer) : Except Fault Lexer := do
  let l ← l.rememberKey
  let (s, crossed, c) := Plain.scan l.inFlow l.inner l.cursor
  pure { l.push (.scalar s true) with cursor := c, keyAllowed := crossed }

def quoted (double : Bool) : Lexer → Except Fault Lexer :=
  item fun c => do
    let (s, c) ← Quoted.scan double c
    pure (.scalar s false, c)

def block (folded : Bool) (l : Lexer) : Except Fault Lexer := do
  let l ← l.forgetKey
  let (s, c) ← Block.scan folded l.inner l.cursor.next
  pure { l.push (.scalar s false) with cursor := c, keyAllowed := true }

/-- What has to end in front of a directive or a document marker. -/
def closeAll (l : Lexer) : Except Fault Lexer := do
  let l ← (l.unwind 0).forgetKey
  pure { l with keyAllowed := false }

def directive (l : Lexer) : Except Fault Lexer := do
  let l ← l.closeAll
  let (t, c) ← scanDirective l.cursor.next
  pure { l.push t with cursor := c }

def marker (t : Token) (l : Lexer) : Except Fault Lexer := do
  let l ← l.closeAll
  pure (l.take 3 t)

/-! ### The whole text -/

/-- Skips blanks, comments and line breaks. -/
def skipGaps : Nat → Lexer → Lexer
  | 0, l => l
  | n + 1, l =>
    let c := l.cursor.skipWhile (·.is ' ')
    let c := if c.head? = some '#' then c.skipLine else c
    if c.head?.any isBreak then
      skipGaps n { l with cursor := c.next, keyAllowed := l.keyAllowed || !l.inFlow }
    else { l with cursor := c }

/-- The signs that a plain scalar does not start with, unless something follows. -/
def signs : Text := "-?:,[]\x7b\x7d#&*!|>'\"%@`"

/-- A plain scalar starts here. -/
def startsPlain (l : Lexer) : Bool :=
  match l.cursor.rest with
  | [] => false
  | ch :: r =>
    !separates (some ch) && (!signs.contains ch
      || !separates r.head? && (ch = '-' || !l.inFlow && (ch = '?' || ch = ':')))

/-- Reads the next token, which starts here. -/
def token (ch : CodePoint) (l : Lexer) : Except Fault Lexer :=
  let c := l.cursor
  let alone := separates c.rest.tail.head?
  if ch = '%' && c.column = 0 then l.directive
  else if c.column = 0 && c.startsMarker '-' then l.marker .documentStart
  else if c.column = 0 && c.startsMarker '.' then l.marker .documentEnd
  else if ch = '[' then l.flowStart .flowSequenceStart
  else if ch = '{' then l.flowStart .flowMappingStart
  else if ch = ']' then l.flowEnd .flowSequenceEnd
  else if ch = '}' then l.flowEnd .flowMappingEnd
  else if ch = ',' then l.flowEntry
  else if ch = '-' && alone then l.blockSign .blockSequenceStart .blockEntry true
  else if ch = '?' && (l.inFlow || alone) then l.blockSign .blockMappingStart .key (!l.inFlow)
  else if ch = ':' && (l.inFlow || alone) then l.value
  else if ch = '*' then l.item fun c => (scanAnchor c.next).map fun p => (.alias p.1, p.2)
  else if ch = '&' then l.item fun c => (scanAnchor c.next).map fun p => (.anchor p.1, p.2)
  else if ch = '!' then l.item scanTag
  else if ch = '|' && !l.inFlow then l.block false
  else if ch = '>' && !l.inFlow then l.block true
  else if ch = '\'' then l.quoted false
  else if ch = '"' then l.quoted true
  else if l.startsPlain then l.plain
  else .error .malformed

/-- Reads the next token, or closes what is open at the end of the text; the truth value says that
the text has ended. -/
def step (l : Lexer) : Except Fault (Lexer × Bool) := do
  let l ← (l.skipGaps (l.cursor.left + 1)).dropStaleKeys
  let l := l.unwind (l.cursor.column + 1)
  match l.cursor.head? with
  | none => return (← (l.unwind 0).forgetKey, true)
  | some ch => return (← l.token ch, false)

/-- The tokens that stay where they are, whatever follows. -/
def settled (l : Lexer) : List Token :=
  let pending := l.keys.filter fun k => !isStale l.cursor k.2
  l.tokens.reverse.take (pending.foldr (fun k n => min k.2.before n) l.count)

/-- Reads the tokens up to the end of the text or up to a fault. -/
def run : Nat → Lexer → List Token × Option Fault
  | 0, l => (l.settled, some .malformed)
  | n + 1, l =>
    match l.step with
    | .error f => (l.settled, some f)
    | .ok (l, true) => (l.tokens.reverse, none)
    | .ok (l, false) => run n l

end Lexer

/-- The tokens of a text, and what is wrong behind them; a byte order mark in front is passed
over. -/
def tokens (s : Text) : List Token × Option Fault :=
  let c : Cursor := { rest := s }
  Lexer.run (s.length + 1) { cursor := if s.head? = some '\uFEFF' then c.next else c }

end ValidatorGen.Yaml
