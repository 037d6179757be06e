import Mathlib.Data.List.Basic
import ValidatorGen.Emit.Modules
import ValidatorGen.Proofs.Text

/-!
# Reading the members of an enumeration

The members of an enumeration are written as literals in single quotes, with a comma and a blank
between them, up to a square bracket.  `members?` reads them one after the other: behind a quote, up
to the next bare quote, where a backslash takes the next character with it.

* `member?_escapeFor` — a literal ends at its own quote, whatever it holds;
* `members?_enumMembers` — the members are read as they were, up to the bracket;
* `enumsModule_eq` — where they stand in the module of the enumerations;
* `members?_enumsModule` — so the values of each enumeration are read again from that module.
-/

namespace ValidatorGen.Script

open Emit Emitter

/-! ## Reading -/

/-- Behind an opening quote: the value up to the next bare quote, and the text behind it. -/
def member? : Text → Option (Text × Text)
  | [] => none
  | [.char '\\'] => none
  | .char '\\' :: c :: r => (member? r).map fun x => (c :: x.1, x.2)
  | c :: r => if c = '\'' then some ([], r) else (member? r).map fun x => (c :: x.1, x.2)

theorem member?_cons {c : CodePoint} (hc : c ≠ .char '\\') (r : Text) :
    member? (c :: r)
      = if c = '\'' then some ([], r) else (member? r).map fun x => (c :: x.1, x.2) := by
  rw [member?]
  · exact fun h _ => hc h
  · exact fun _ _ h _ => hc h

theorem length_lt_of_member? {s v r : Text} (h : member? s = some (v, r)) :
    r.length < s.length := by
  fun_induction member? s generalizing v with
  | case1 | case2 => exact absurd h (by simp)
  | case4 => simp_all
  | case3 c s ih | case5 c s _ _ _ ih =>
    obtain ⟨x, hx, hv⟩ := Option.map_eq_some_iff.1 h
    cases hv
    have := ih hx
    simp only [List.length_cons]
    omega

/-- The members up to the closing bracket, and the text from the bracket on. -/
def members? : Text → Option (List Text × Text)
  | .char '\'' :: s =>
    match h : member? s with
    | some (v, .char ']' :: r) => some ([v], .char ']' :: r)
    | some (v, .char ',' :: .char ' ' :: r) =>
      have := length_lt_of_member? h
      (members? r).map fun x => (v :: x.1, x.2)
    | _ => none
  | _ => none
termination_by s => s.length
decreasing_by
  simp only [List.length_cons] at *
  omega

theorem members?_quote (s : Text) :
    members? (.char '\'' :: s) =
      match member? s with
      | some (v, .char ']' :: r) => some ([v], .char ']' :: r)
      | some (v, .char ',' :: .char ' ' :: r) => (members? r).map fun x => (v :: x.1, x.2)
      | _ => none := by
  rw [members?]
  split <;> simp_all

/-! ## Members as they are written -/

/-- A literal ends at its own quote. -/
theorem member?_escapeFor (v r : Text) :
    member? (Text.escapeFor '\'' v ++ .char '\'' :: r) = some (v, r) := by
  induction v with
  | nil =>
    rw [Text.escapeFor_nil, List.nil_append, member?_cons (by decide), if_pos rfl]
  | cons c v ih =>
    rw [Text.escapeFor_cons, List.append_assoc]
    unfold Text.escapeOne
    split_ifs with hc
    · show member? (.char '\\' :: c :: (Text.escapeFor '\'' v ++ .char '\'' :: r)) = _
      rw [member?, ih]
      rfl
    · obtain ⟨hslash, hquote⟩ := not_or.1 hc
      show member? (c :: (Text.escapeFor '\'' v ++ .char '\'' :: r)) = _
      rw [member?_cons hslash, if_neg hquote, ih]
      rfl

theorem quoteSingle_append (v r : Text) : Text.quoteSingle v ++ r
    = .char '\'' :: (Text.escapeFor '\'' v ++ .char '\'' :: r) := by
  unfold Text.quoteSingle
  rw [List.append_assoc, List.append_assoc]
  rfl

/-- The first of several members, and what stands behind it. -/
theorem enumMembers_cons_cons (v w : Text) (vs : List Text) (r : Text) :
    enumMembers (v :: w :: vs) ++ r = .char '\'' :: (Text.escapeFor '\'' v
      ++ .char '\'' :: .char ',' :: .char ' ' :: (enumMembers (w :: vs) ++ r)) := by
  unfold enumMembers
  rw [List.map_cons, List.map_cons, Text.join_cons_cons, List.append_assoc, quoteSingle_append,
    List.append_assoc]
  rfl

/-- The members are read as they were, up to the bracket. -/
theorem members?_enumMembers {vs : List Text} (h : vs ≠ []) (r : Text) :
    members? (enumMembers vs ++ .char ']' :: r) = some (vs, .char ']' :: r) := by
  induction vs with
  | nil => exact absurd rfl h
  | cons v vs ih =>
    cases vs with
    | nil =>
      have hlast : enumMembers [v] = Text.quoteSingle v := Text.join_singleton _ _
      rw [hlast, quoteSingle_append, members?_quote, member?_escapeFor]
      rfl
    | cons w vs =>
      rw [enumMembers_cons_cons, members?_quote, member?_escapeFor]
      show (members? (enumMembers (w :: vs) ++ .char ']' :: r)).map (fun x => (v :: x.1, x.2)) = _
      rw [ih (List.cons_ne_nil w vs)]
      rfl

/-! ## The module of the enumerations -/

/-- What stands in front of the members of an enumeration. -/
def enumOpening (n : Enumeration) : Text :=
  "\n\nexport const " ++ enumSchemaName n.name ++ " = z.enum(["

/-- What stands behind them: the rest of the schema, and the type. -/
def enumClosing (n : Enumeration) : Text :=
  "])\n\nexport type " ++ enumTypeName n.name ++ " = z.infer<typeof " ++ enumSchemaName n.name
    ++ ">"

/-- The text of an enumeration. -/
def enumText (n : Enumeration) : Text := enumOpening n ++ (enumMembers n.values ++ enumClosing n)

theorem flatMap_enumSections (n : Enumeration) :
    (enumSections n).flatMap (fun s => ("\n\n" : Text) ++ Text.join "\n" s) = enumText n := by
  unfold enumSections enumText enumOpening enumClosing
  simp only [List.flatMap_cons, List.flatMap_nil, Text.join_singleton, List.append_assoc,
    List.append_nil]
  rfl

/-- The text of the module: what it imports, and one enumeration after the other. -/
theorem enumsModule_eq (e : Emitter) (ns : List Enumeration) :
    e.enumsModule ns
      = namespaceImport "z" e.config.zodImport ++ (ns.flatMap enumText ++ "\n") := by
  have hsections : ∀ s ∈ ns.flatMap enumSections, (!s.isEmpty) = true := by
    intro s hs
    obtain ⟨n, -, hs⟩ := List.mem_flatMap.1 hs
    unfold enumSections at hs
    rcases List.mem_pair.1 hs with rfl | rfl <;> rfl
  have hbody : ((ns.flatMap enumSections).map (Text.join "\n" ·)).flatMap (("\n\n" : Text) ++ ·)
      = ns.flatMap enumText := by
    rw [List.flatMap_map, List.flatMap_assoc]
    exact List.flatMap_congr fun n _ => flatMap_enumSections n
  unfold enumsModule joinSections
  rw [List.filter_cons_of_pos rfl, List.filter_eq_self.2 hsections, List.map_cons, Text.join_cons,
    Text.join_singleton, hbody, List.append_assoc]

/-- What the module of the enumerations holds in front of the members of `n`. -/
def beforeMembers (e : Emitter) (ns : List Enumeration) (n : Enumeration) : Text :=
  namespaceImport "z" e.config.zodImport ++ (ns.flatMap enumText ++ enumOpening n)

/-- What it holds behind them, from the closing bracket on. -/
def behindMembers (n : Enumeration) (ms : List Enumeration) : Text :=
  enumClosing n ++ (ms.flatMap enumText ++ "\n")

/-- **Values are read again.**  In the module of the enumerations the members of each enumeration
that has values stand in front of a bracket; reading them gives the values in order, and stops at
that bracket. -/
theorem members?_enumsModule (e : Emitter) (ns ms : List Enumeration) (n : Enumeration)
    (h : n.values ≠ []) :
    e.enumsModule (ns ++ n :: ms)
        = beforeMembers e ns n ++ (enumMembers n.values ++ behindMembers n ms) ∧
      members? (enumMembers n.values ++ behindMembers n ms)
        = some (n.values, behindMembers n ms) := by
  refine ⟨?_, members?_enumMembers h _⟩
  unfold beforeMembers behindMembers
  rw [enumsModule_eq, List.flatMap_append, List.flatMap_cons]
  simp only [enumText, List.append_assoc]

/-- Values with a quote, a bracket and a comma in them, and a backslash at the end. -/
theorem members?_enumsModule_grades :
    let e : Emitter := ⟨{ useStandaloneEnums := true }, .empty, "@prisma/client", none⟩
    let n : Enumeration := ⟨"Grade", ["it's", "a']", "', '", "\\"]⟩
    let text : Text := "'it\\'s', 'a\\']', '\\', \\'', '\\\\'"
    n.values ≠ [] ∧ enumMembers n.values = text ∧
      e.enumsModule [n] = beforeMembers e [] n ++ (text ++ behindMembers n []) ∧
      members? (text ++ behindMembers n []) = some (n.values, behindMembers n []) := by
  intro e n text
  have h : n.values ≠ [] := by decide
  have htext : enumMembers n.values = text := by decide +kernel
  obtain ⟨hmodule, hmembers⟩ := members?_enumsModule e [] [] n h
  rw [htext] at hmodule hmembers
  exact ⟨h, htext, hmodule, hmembers⟩

end ValidatorGen.Script
