import ValidatorGen.Yaml.Tag
import ValidatorGen.Yaml.Token

/-!
# Nodes

A document is made up of nodes with tags, which are read off the tokens.  Nodes have numbers, by
which they refer to their parts; an alias is the number of the node with its anchor.  An anchor must
stand in front of its aliases and must not occur twice.  A node may be a part of itself.
-/

namespace ValidatorGen.Yaml

inductive Node
  | scalar (tag : Tag) (text : Text)
  | sequence (tag : Tag) (items : List Nat)
  | mapping (tag : Tag) (entries : List (Nat × Nat))
  deriving Repr

/-- The nodes of a document by number, and the number of the one that all others are parts of. -/
structure Graph where
  nodes : Array Node
  root : Nat
  deriving Repr

namespace Node

def tag : Node → Tag
  | scalar t _ => t
  | sequence t _ => t
  | mapping t _ => t

/-- What stands where nothing is written. -/
def nothing : Node := scalar .null ""

/-! ### Reading tokens -/

/-- The tokens that are left, what is wrong with the text behind them, and what was read so far. -/
structure Feed where
  tokens : List Token
  fault? : Option Fault
  /-- The anchors, with the numbers of their nodes. -/
  anchors : List (Text × Nat) := []
  nodes : Array Node := #[]
  /-- How many nodes are open. -/
  depth : Nat := 0

abbrev Parser := StateT Feed (Except Fault)

def malformed {α : Type} : Parser α := throw .malformed

/-- The next token; none at the end of the text. -/
def peek? : Parser (Option Token) := do
  let f ← get
  match f.tokens, f.fault? with
  | t :: _, _ => return some t
  | [], some fault => throw fault
  | [], none => return none

def drop : Parser Unit := modify fun f => { f with tokens := f.tokens.tail }

/-- The next token is one of these. -/
def sees (ts : List Token) : Parser Bool := return (← peek?).any ts.contains

/-- Takes the next token if it is this one. -/
def accept (t : Token) : Parser Bool := do
  if ← sees [t] then
    drop
    return true
  else return false

def expect (t : Token) : Parser Unit := do
  if !(← accept t) then malformed

/-! ### Numbers -/

/-- Adds a node. -/
def add (m : Node) : Parser Nat :=
  modifyGet fun f => (f.nodes.size, { f with nodes := f.nodes.push m })

/-- Puts a node in the place of another one. -/
def put (number : Nat) (m : Node) : Parser Unit :=
  modify fun f => { f with nodes := f.nodes.setIfInBounds number m }

/-- The node of an alias. -/
def lookup (name : Text) : Parser Nat := do
  match (← get).anchors.find? (·.1 = name) with
  | some (_, number) => return number
  | none => malformed

/-- How many nodes may be inside each other. -/
def maxDepth : Nat := 485

/-- Goes into a node. -/
def descend : Parser Unit := do
  if maxDepth < (← get).depth then throw .tooDeep
  modify fun f => { f with depth := f.depth + 1 }

/-- Goes out of a node. -/
def ascend : Parser Unit := modify fun f => { f with depth := f.depth - 1 }

/-- What tag handles stand for. -/
abbrev Handles := List (Text × Text)

/-- What stands in front of a node: its anchor, and the name of its tag behind a handle. -/
structure Properties where
  anchor? : Option Text := none
  handle? : Option Text := none
  tag? : Option Text := none

namespace Properties

/-- Takes the anchor. -/
def withAnchor (p : Properties) : Parser Properties := do
  match ← peek? with
  | some (.anchor a) => drop; return { p with anchor? := some a }
  | _ => return p

/-- Takes the tag. -/
def withTag (p : Properties) : Parser Properties := do
  match ← peek? with
  | some (.tag h? s) => drop; return { p with handle? := h?, tag? := some s }
  | _ => return p

/-- Puts what the tag handle stands for in its place. -/
def resolve (hs : Handles) (p : Properties) : Parser Properties := do
  match p.handle? with
  | none => return p
  | some h =>
    match hs.find? (·.1 = h) with
    | some (_, stem) => return { p with handle? := none, tag? := p.tag?.map (stem ++ ·) }
    | none => malformed

/-- Takes an anchor and a tag in either order. -/
def read (hs : Handles) : Parser Properties := do
  let p ← withAnchor {}
  let p ← p.withTag
  let p ← if p.anchor?.isSome then pure p else p.withAnchor
  p.resolve hs

/-- The anchor must be new. -/
def check (p : Properties) : Parser Unit := do
  if (← get).anchors.any (p.anchor? = some ·.1) then malformed

/-- Takes note of the anchor of a node. -/
def note (p : Properties) (number : Nat) : Parser Unit :=
  modify fun f => { f with anchors := (p.anchor?.map (·, number)).toList ++ f.anchors }

/-- The node says nothing about its kind. -/
def isPlain (p : Properties) : Bool := p.tag? = none || p.tag? = some "!"

/-- The tag, where a certain one is meant if the node does not say. -/
def tagOr (p : Properties) (t : Tag) : Tag := if p.isPlain then t else .ofName (p.tag?.getD "")

/-- The tag of a scalar. -/
def scalarTag (p : Properties) (text : Text) (plain : Bool) : Tag :=
  if plain && p.tag? = none || p.tag? = some "!" then .ofPlain text else p.tagOr .text

end Properties

/-- Adds a scalar. -/
def scalarNode (p : Properties) (t : Tag) (text : Text) : Parser Nat := do
  let number ← add (scalar t text)
  p.note number
  return number

/-- Adds a collection; its anchor is known to its parts. -/
def collection {α : Type} (p : Properties) (make : List α → Node) (read : Parser (List α)) :
    Parser Nat := do
  let number ← add (make [])
  p.note number
  put number (make (← read))
  return number

mutual

/-- Reads a node.  Block collections may stand in a block only, and a sequence that is not further
to the right than its key only as a value. -/
def node (hs : Handles) : Nat → Bool → Bool → Parser Nat
  | 0, _, _ => malformed
  | n + 1, block, asValue => do
    match ← peek? with
    | some (.alias name) => drop; lookup name
    | _ => do
      let p ← Properties.read hs
      let _ ← peek?
      p.check
      descend
      let number ← content hs n p block asValue
      ascend
      return number

/-- Reads a node behind its properties. -/
def content (hs : Handles) : Nat → Properties → Bool → Bool → Parser Nat
  | 0, _, _, _ => malformed
  | n + 1, p, block, asValue => do
    let list := sequence (p.tagOr .list)
    let map := mapping (p.tagOr .map)
    match ← peek?, block, asValue with
    | some .blockEntry, _, true => collection p list (valueItems hs n)
    | some (.scalar s plain), _, _ => drop; scalarNode p (p.scalarTag s plain) s
    | some .flowSequenceStart, _, _ => drop; collection p list (flowItems hs n true)
    | some .flowMappingStart, _, _ => drop; collection p map (flowEntries hs n true)
    | some .blockSequenceStart, true, _ => drop; collection p list (blockItems hs n)
    | some .blockMappingStart, true, _ => drop; collection p map (blockEntries hs n)
    | _, _, _ =>
      if p.anchor?.isNone && p.tag?.isNone then malformed else scalarNode p (p.tagOr .null) ""

/-- Reads a node, or nothing in front of these tokens. -/
def nodeBefore (hs : Handles) : Nat → List Token → Bool → Bool → Parser Nat
  | 0, _, _, _ => malformed
  | n + 1, ts, block, asValue => do
    if ← sees ts then add nothing else node hs n block asValue

/-- Reads a value with its colon, if there is one in front of these tokens. -/
def valueBefore (hs : Handles) : Nat → List Token → Bool → Parser Nat
  | 0, _, _ => malformed
  | n + 1, ts, block => do
    if ← accept .value then nodeBefore hs n ts block block else add nothing

def blockItems (hs : Handles) : Nat → Parser (List Nat)
  | 0 => malformed
  | n + 1 => do
    if ← accept .blockEntry then
      let i ← nodeBefore hs n [.blockEntry, .blockEnd] true false
      return i :: (← blockItems hs n)
    else
      expect .blockEnd
      return []

/-- Reads the items of a sequence that has no end of its own. -/
def valueItems (hs : Handles) : Nat → Parser (List Nat)
  | 0 => malformed
  | n + 1 => do
    if ← accept .blockEntry then
      let i ← nodeBefore hs n [.blockEntry, .key, .value, .blockEnd] true false
      return i :: (← valueItems hs n)
    else return []

def blockEntries (hs : Handles) : Nat → Parser (List (Nat × Nat))
  | 0 => malformed
  | n + 1 => do
    if ← accept .key then
      let k ← nodeBefore hs n [.key, .value, .blockEnd] true true
      let v ← valueBefore hs n [.key, .value, .blockEnd] true
      return (k, v) :: (← blockEntries hs n)
    else
      expect .blockEnd
      return []

/-- Reads the items of a flow sequence; a single entry may stand for a mapping. -/
def flowItems (hs : Handles) : Nat → Bool → Parser (List Nat)
  | 0, _ => malformed
  | n + 1, first => do
    if ← accept .flowSequenceEnd then return []
    if !first then expect .flowEntry
    if ← accept .key then
      let i ← collection {} (mapping .map) do
        let k ← nodeBefore hs n [.value, .flowEntry, .flowSequenceEnd] false false
        let v ← valueBefore hs n [.flowEntry, .flowSequenceEnd] false
        return [(k, v)]
      return i :: (← flowItems hs n false)
    else if ← accept .flowSequenceEnd then return []
    else
      let i ← node hs n false false
      return i :: (← flowItems hs n false)

/-- Reads the entries of a flow mapping; a value may be missing. -/
def flowEntries (hs : Handles) : Nat → Bool → Parser (List (Nat × Nat))
  | 0, _ => malformed
  | n + 1, first => do
    if ← accept .flowMappingEnd then return []
    if !first then expect .flowEntry
    if ← accept .key then
      let k ← nodeBefore hs n [.value, .flowEntry, .flowMappingEnd] false false
      let v ← valueBefore hs n [.flowEntry, .flowMappingEnd] false
      return (k, v) :: (← flowEntries hs n false)
    else if ← accept .flowMappingEnd then return []
    else
      let k ← node hs n false false
      let v ← add nothing
      return (k, v) :: (← flowEntries hs n false)

end

/-! ### Documents -/

/-- What a document says about itself in front of it. -/
structure Directives where
  version? : Option Nat := none
  handles : Handles := []

/-- The handles that need not be declared. -/
def defaultHandles : Handles := [("!", "!"), ("!!", Tag.stem)]

/-- Takes the directives; none may occur twice, and only versions 1 are known. -/
def directives : Nat → Directives → Parser Directives
  | 0, d => return d
  | n + 1, d => do
    match ← peek? with
    | some (.version major) =>
      drop
      if d.version?.isSome || major ≠ 1 then malformed
      else directives n { d with version? := some major }
    | some (.handle h stem) =>
      drop
      if d.handles.any (·.1 = h) then malformed
      else directives n { d with handles := (h, stem) :: d.handles }
    | some .reserved => drop; directives n d
    | _ => return d

/-- Takes the signs that end a document. -/
def documentEnds : Nat → Parser Unit
  | 0 => return ()
  | n + 1 => do if ← accept .documentEnd then documentEnds n

/-- Sees to it that no other document follows. -/
def lastDocument (length : Nat) : Parser Unit := do
  documentEnds length
  if (← peek?).isSome then
    let _ ← directives length {}
    let _ ← peek?
    malformed

/-- Reads the node of a document behind its start. -/
def documentNode (hs : Handles) (length : Nat) : Parser Nat := do
  if (← peek?).all fun t => t.isDirective || t = .documentStart || t = .documentEnd then add nothing
  else node hs (4 * length + 4) true false

/-- Reads the only document of a text of at most `length` tokens, if there is one. -/
def document? (length : Nat) : Parser (Option Nat) := do
  match ← peek? with
  | none => return none
  | some t =>
    let root ←
      if t.isDirective || t = .documentStart then do
        let d ← directives length {}
        expect .documentStart
        documentNode (d.handles ++ defaultHandles) length
      else node defaultHandles (4 * length + 4) true false
    lastDocument length
    return some root

end Node

/-- The graph of the only document, if there is one, from the tokens and what is wrong behind
them. -/
def Graph.ofTokens? (ts : List Token) (fault? : Option Fault) : Except Fault (Option Graph) := do
  let (root?, f) ← (Node.document? (ts.length + 1)).run { tokens := ts, fault? }
  pure (root?.map fun root => ⟨f.nodes, root⟩)

end ValidatorGen.Yaml
