import ValidatorGen.Ordered
import ValidatorGen.Yaml.Node
import ValidatorGen.Yaml.Scalar.Value

/-!
# Drafts of values

The value of a node is drafted when something first asks for it: a scalar at once, a collection as
an empty one, whose parts are drafted later, in the order in which the collections were met.  So a
collection may hold itself.  Mappings that are merged into another one lend it their entries, which
stand in front of its own.
-/

namespace ValidatorGen.Yaml

/-- The value of a node, with numbers of nodes for the values in it. -/
inductive Draft
  | simple (d : Document)
  | list (items : List Nat)
  | pairs (items : List (Nat × Nat))
  | set (keys : List Document)
  | map (entries : List (Document × Nat))
  deriving Repr

/-- A graph whose nodes are being drafted. -/
structure Desk where
  nodes : Array Node
  drafts : Array (Option Draft)
  /-- The collections whose parts are not drafted yet, the last one first. -/
  waiting : List Nat := []

abbrev Drafting := StateT Desk (Except Fault)

namespace Drafting

def malformed {α : Type} : Drafting α := throw .malformed

def nodeAt (number : Nat) : Drafting Node :=
  return (← get).nodes.getD number Node.nothing

def draftAt? (number : Nat) : Drafting (Option Draft) :=
  return (← get).drafts.getD number none

def putNode (number : Nat) (m : Node) : Drafting Unit :=
  modify fun d => { d with nodes := d.nodes.setIfInBounds number m }

def putDraft (number : Nat) (draft : Draft) : Drafting Unit :=
  modify fun d => { d with drafts := d.drafts.setIfInBounds number (some draft) }

/-! ### Scalars -/

/-- The value under the key with the tag for that. -/
def standIn? : List (Nat × Nat) → Drafting (Option Nat)
  | [] => return none
  | (k, v) :: es => do
    if (← nodeAt k).tag = .value then return some v else standIn? es

/-- The text of a scalar, or of the one that a mapping stands for. -/
def scalarText : Nat → Nat → Drafting Text
  | 0, _ => throw .endless
  | n + 1, number => do
    match ← nodeAt number with
    | .scalar _ s => return s
    | .sequence .. => malformed
    | .mapping _ es =>
      match ← standIn? es with
      | some v => scalarText n v
      | none => malformed

/-- Drafts the value of a node that is no collection by its tag. -/
def simple (number : Nat) (m : Node) : Drafting Unit := do
  let s ← scalarText ((← get).nodes.size + 1) number
  match m with
  | .mapping .timestamp _ => throw .momentMapping
  | m => putDraft number (.simple (← (scalarValue number m.tag s : Except Fault Document)))

/-! ### Collections -/

/-- Drafts a collection without its parts. -/
def later (number : Nat) (draft : Draft) : Drafting Unit := do
  putDraft number draft
  modify fun d => { d with waiting := number :: d.waiting }

/-- Drafts the value of a node unless it is drafted. -/
def start (number : Nat) : Drafting Unit := do
  if (← draftAt? number).isSome then return
  let m ← nodeAt number
  match m.tag with
  | .list => later number (.list [])
  | .orderedMap => later number (.pairs [])
  | .pairs => later number (.pairs [])
  | .set => later number (.set [])
  | .map => later number (.map [])
  | _ => simple number m

/-- Takes the first entry that is to be merged in out of the entries of a mapping. -/
def takeMerge? : List (Nat × Nat) → Drafting (Option (Nat × List (Nat × Nat)))
  | [] => return none
  | (k, v) :: es => do
    if (← nodeAt k).tag = .merge then return some (v, es)
    else return (← takeMerge? es).map fun p => (p.1, (k, v) :: p.2)

/-- The keys with the tag for a stand-in are texts like others. -/
def plainKeys : List (Nat × Nat) → Drafting Unit
  | [] => return ()
  | (k, _) :: es => do
    match ← nodeAt k with
    | .scalar .value s => putNode k (.scalar .text s)
    | .mapping .value es => putNode k (.mapping .text es)
    | _ => pure ()
    plainKeys es

mutual

/-- Takes the entries that are to be merged in out of a mapping; the result are the entries that
are lent for them, behind those that are lent already. -/
def lent : Nat → Nat → List (Nat × Nat) → Drafting (List (Nat × Nat))
  | 0, _, _ => throw .endless
  | n + 1, number, before => do
    let .mapping t es ← nodeAt number | malformed
    match ← takeMerge? es with
    | none => return before
    | some (lender, rest) =>
      putNode number (.mapping t rest)
      match ← nodeAt lender with
      | .mapping .. => lent n number (before ++ (← flatten n lender))
      | .sequence _ items =>
        let parts ← items.mapM (flatten n)
        lent n number (before ++ parts.reverse.flatten)
      | .scalar .. => malformed

/-- Merges into a mapping what is to be merged in; the result are its entries. -/
def flatten : Nat → Nat → Drafting (List (Nat × Nat))
  | 0, _ => throw .endless
  | n + 1, number => do
    let before ← lent n number []
    let .mapping t es ← nodeAt number | malformed
    plainKeys es
    putNode number (.mapping t (before ++ es))
    return before ++ es

end

/-- Drafts the entries of a mapping behind those before; no key may be a collection. -/
def entries (before : List (Document × Nat)) : List (Nat × Nat) → Drafting (List (Document × Nat))
  | [] => return before
  | (k, v) :: es => do
    start k
    match ← draftAt? k with
    | some (.simple key) =>
      start v
      entries (Ordered.putBy Document.same key v before) es
    | _ => malformed

/-- Drafts the only entry of each mapping. -/
def pairs : List Nat → Drafting (List (Nat × Nat))
  | [] => return []
  | i :: is => do
    let .mapping _ [(k, v)] ← nodeAt i | malformed
    start k
    start v
    return (k, v) :: (← pairs is)

/-- How many entries all mappings have together. -/
def countEntries (nodes : Array Node) : Nat :=
  nodes.foldr (fun m n => match m with
    | .mapping _ es => es.length + n
    | _ => n) 0

/-- Drafts the parts of a collection. -/
def fill (number : Nat) : Drafting Unit := do
  let m ← nodeAt number
  match ← draftAt? number, m with
  | some (.list _), .sequence _ items =>
    items.forM start
    putDraft number (.list items)
  | some (.pairs _), .sequence _ items => putDraft number (.pairs (← pairs items))
  | some (.set _), .mapping .. =>
    let es ← flatten (2 * countEntries (← get).nodes + 2) number
    putDraft number (.set ((← entries [] es).map Prod.fst))
  | some (.map _), .mapping .. =>
    let es ← flatten (2 * countEntries (← get).nodes + 2) number
    putDraft number (.map (← entries [] es))
  | _, _ => malformed

/-- Drafts the parts of collections until none is waiting. -/
def fillAll : Nat → Drafting Unit
  | 0 => return ()
  | n + 1 => do
    match (← get).waiting.reverse with
    | [] => return ()
    | numbers =>
      modify fun d => { d with waiting := [] }
      numbers.forM fill
      fillAll n

end Drafting

/-- The drafts of all values in a graph. -/
def Graph.drafts (g : Graph) : Except Fault (Array (Option Draft)) := do
  let work : Drafting Unit := do
    Drafting.start g.root
    Drafting.fillAll (g.nodes.size + 1)
  let (_, d) ← work.run { nodes := g.nodes, drafts := Array.replicate g.nodes.size none }
  pure d.drafts

end ValidatorGen.Yaml
