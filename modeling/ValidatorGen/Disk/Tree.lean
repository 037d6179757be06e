import ValidatorGen.Ordered
import ValidatorGen.Text.CodePoint

/-!
# Trees of files

A node is a file with its bytes or a folder with named nodes.  A place is the list of names that
leads to a node from the root.  `set` puts a node at a place whose folder exists and changes no
other place.
-/

namespace ValidatorGen

inductive Node
  | file (content : List UInt8)
  | folder (entries : List (Text × Node))
  deriving BEq, Repr, Inhabited

namespace Node

def isFolder : Node → Bool
  | folder _ => true
  | file _ => false

/-- The entries of a folder; a file has none. -/
def entries : Node → List (Text × Node)
  | folder es => es
  | file _ => []

/-- The entry of this name. -/
def child? (name : Text) (n : Node) : Option Node := Ordered.get? name n.entries

/-- The tree that has nothing but the folders on the way to a place and the folder there. -/
def way : List Text → Node
  | [] => folder []
  | a :: p => folder [(a, way p)]

/-- The node at a place. -/
def get? (n : Node) : List Text → Option Node
  | [] => some n
  | a :: p => (n.child? a).bind (·.get? p)

/-- Puts a node at a place; if there is no folder for it, nothing changes. -/
def set (n : Node) (new : Node) : List Text → Node
  | [] => new
  | a :: p =>
    match n with
    | file c => file c
    | folder es =>
      match Ordered.get? a es, p with
      | some m, p => folder (Ordered.put a (m.set new p) es)
      | none, [] => folder (es ++ [(a, new)])
      | none, _ :: _ => folder es

/-- Removes the node at a place. -/
def remove (n : Node) : List Text → Node
  | [] => n
  | a :: p =>
    match n with
    | file c => file c
    | folder es =>
      match p with
      | [] => folder (Ordered.erase a es)
      | b :: q =>
        match Ordered.get? a es with
        | some m => folder (Ordered.put a (m.remove (b :: q)) es)
        | none => folder es

theorem get?_nil (n : Node) : n.get? [] = some n := rfl

theorem get?_cons (n : Node) (a : Text) (p : List Text) :
    n.get? (a :: p) = (n.child? a).bind (·.get? p) := rfl

theorem get?_append (n : Node) (p q : List Text) :
    n.get? (p ++ q) = (n.get? p).bind (·.get? q) := by
  induction p generalizing n with
  | nil => rfl
  | cons a p ih =>
    rw [List.cons_append, get?_cons, get?_cons]
    cases n.child? a with
    | none => rfl
    | some m => exact ih m

end Node

end ValidatorGen
