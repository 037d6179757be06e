import ValidatorGen.Yaml.Draft
import ValidatorGen.Yaml.Token.Lexer

/-!
# The document of a text

Drafts of values are put together to a document.  A collection that is a part of itself becomes a
knot under the number of its node.
-/

namespace ValidatorGen.Yaml

/-- The documents that are put together so far, by number; none of them refers to a knot around
it. -/
abbrev Assembly := StateM (Array (Option Document))

/-- A document that is put together, and the numbers of the knots around it that it refers to. -/
structure Piece where
  document : Document
  around : List Nat := []

namespace Piece

/-- Puts a collection together from its parts. -/
def ofParts (make : List Document → Document) (parts : List Piece) : Piece :=
  ⟨make (parts.map (·.document)), (parts.flatMap (·.around)).eraseDups⟩

/-- The collection of a node: a knot if it refers to itself or to something around it. -/
def tied (number : Nat) (p : Piece) : Piece :=
  if p.around.isEmpty then p
  else ⟨.knot number p.document, p.around.filter (· ≠ number)⟩

end Piece

/-- Puts the document of a node together that lies inside of the nodes `around`. -/
def assemble (drafts : Array (Option Draft)) : Nat → List Nat → Nat → Assembly Piece
  | 0, _, _ => return ⟨.null, []⟩
  | n + 1, around, number => do
    if around.contains number then return ⟨.back number, [number]⟩
    if let some d := (← get).getD number none then return ⟨d, []⟩
    let part := assemble drafts n (number :: around)
    let whole : Piece ← match drafts.getD number none with
      | none => pure ⟨.null, []⟩
      | some (.simple d) => pure ⟨d, []⟩
      | some (.set keys) => pure ⟨.set keys, []⟩
      | some (.list items) => pure (.ofParts .list (← items.mapM part))
      | some (.pairs items) => do
        let parts ← items.mapM fun i => do
          return Piece.ofParts (fun ds => match ds with
            | [a, b] => .pair a b
            | ds => .list ds) [← part i.1, ← part i.2]
        pure (.ofParts .list parts)
      | some (.map entries) => do
        let parts ← entries.mapM fun e => part e.2
        pure (.ofParts (fun ds => .map ((entries.map Prod.fst).zip ds)) parts)
    let whole := whole.tied number
    if whole.around.isEmpty then
      modify fun done => done.setIfInBounds number (some whole.document)
    return whole

/-- The document of a graph. -/
def Graph.document (g : Graph) : Except Fault Document := do
  let drafts ← g.drafts
  let done : Array (Option Document) := Array.replicate g.nodes.size none
  return (Id.run ((assemble drafts (g.nodes.size + 1) [] g.root).run done)).1.document

/-- A character that a text may contain. -/
def isPrintable (c : CodePoint) : Bool :=
  let n := c.toNat
  n = 0x09 || n = 0x0A || n = 0x0D || 0x20 ≤ n && n ≤ 0x7E || n = 0x85
    || 0xA0 ≤ n && n ≤ 0xD7FF || 0xE000 ≤ n && n ≤ 0xFFFD || 0x10000 ≤ n

/-- The value of the only document in a text; without a document it is null. -/
def read (s : Text) : Except Fault Document := do
  if !s.all isPrintable then throw .malformed
  let (ts, fault?) := tokens s
  match ← Graph.ofTokens? ts fault? with
  | some g => g.document
  | none => pure .null

end ValidatorGen.Yaml
