import ValidatorGen.Ordered
import ValidatorGen.Text.Quoted

/-!
# Import statements

A statement imports names from a module, or a module as a whole.  Several lists of names by module
are merged so that every module and every name keeps its first place and occurs once.
-/

namespace ValidatorGen.Emit

/-- Imports some names, each once. -/
def namedImport (typeOnly : Bool) (names : List Text) (module : Text) : Text :=
  (if typeOnly then "import type" else "import") ++ " \x7b " ++ Text.join ", " names.eraseDups
    ++ " \x7d from " ++ Text.quoteSingle module

/-- Imports a whole module under one name. -/
def namespaceImport (name module : Text) : Text :=
  "import * as " ++ name ++ " from " ++ Text.quoteSingle module

/-- Names to import, by module. -/
abbrev Imports := List (Text × List Text)

/-- Adds the names that are not there yet. -/
def addNames (there names : List Text) : List Text :=
  names.foldl (fun ns n => if n ∈ ns then ns else ns ++ [n]) there

/-- Adds one group of imports. -/
def addImports (m group : Imports) : Imports :=
  group.foldl (fun m e => Ordered.modify e.1 [] (addNames · e.2) m) m

/-- Merges groups of imports. -/
def mergeImports (groups : List Imports) : Imports := groups.foldl addImports []

theorem mem_addNames {there names : List Text} {n : Text} :
    n ∈ addNames there names ↔ n ∈ there ∨ n ∈ names := by
  unfold addNames
  induction names generalizing there with
  | nil => simp
  | cons a names ih =>
    rw [List.foldl_cons, ih]
    split
    · rename_i h
      constructor
      · grind
      · rintro (h' | h')
        · exact .inl h'
        · rcases List.mem_cons.1 h' with rfl | h''
          · exact .inl h
          · exact .inr h''
    · simp [or_assoc]

end ValidatorGen.Emit
