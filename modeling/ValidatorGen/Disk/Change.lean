import ValidatorGen.Disk.Tree

/-!
# Changes of a tree

What is to be done to one tree to make another of it: nodes are removed, folders are made and files
are written, a folder before what is in it.
-/

namespace ValidatorGen

/-- A step from one tree to another. -/
inductive Change
  | remove (place : List Text)
  | makeFolder (place : List Text)
  | write (place : List Text) (content : List UInt8)
  deriving DecidableEq, Repr

namespace Node

/-- The steps that remove what is old in a folder. -/
def removals (place : List Text) (old new : List (Text × Node)) : List Change :=
  (old.filter fun e => (Ordered.get? e.1 new).isNone).map fun e => .remove (place ++ [e.1])

mutual

/-- The steps from what is at a place, if anything, to a node there. -/
def changesFrom (place : List Text) (old? : Option Node) : Node → List Change
  | .file c =>
    match old? with
    | some (.file b) => if b = c then [] else [.write place c]
    | some (.folder _) => [.remove place, .write place c]
    | none => [.write place c]
  | .folder es =>
    match old? with
    | some (.file _) => .remove place :: .makeFolder place :: changesIn place [] es
    | some (.folder old) => removals place old es ++ changesIn place old es
    | none => .makeFolder place :: changesIn place [] es

/-- The steps from the old entries of a folder to the entries there. -/
def changesIn (place : List Text) (old : List (Text × Node)) :
    List (Text × Node) → List Change
  | [] => []
  | (name, n) :: es =>
    changesFrom (place ++ [name]) (Ordered.get? name old) n ++ changesIn place old es

end

/-- The steps from one tree to another. -/
def changes (old new : Node) : List Change := changesFrom [] (some old) new

end Node

end ValidatorGen
