import ValidatorGen.Emit.Modules
import ValidatorGen.Proofs.Compile.TypeName
import ValidatorGen.Proofs.Text

/-!
# The two views of a relation

A relation stands in the interface of its model, with marks on its type, and in the schema, with
modifiers behind its base.

* `readMarks?_interfaceProperty` — the marks can be read off the line of the interface;
* `modifiers_relationExpression` — the modifiers of a relation without directives;
* `views_agree` — line by line both list the same relations, and a mark stands where its modifier
  does, except on an optional relation to a model of the name `Json`.
-/

namespace ValidatorGen.Emitter

open Emit Compile Expression

/-! ## Marks -/

/-- The marks on a property of an interface. -/
structure Marks where
  /-- A `?` behind the name. -/
  optional : Bool
  /-- A `[]` behind the type. -/
  many : Bool
  /-- A `| null` at the end. -/
  nullable : Bool
  deriving DecidableEq, Repr

/-- A mark that may be there. -/
def mark (there : Bool) (m : Text) : Text := if there then m else []

/-- The line of an interface for a property of this name and this type. -/
def markedLine (name type : Text) (k : Marks) : Text :=
  ("  " ++ name) ++ (mark k.optional "?" ++ ((": " ++ type)
    ++ (mark k.many "[]" ++ mark k.nullable " | null")))

/-- Takes a mark off the front of a text, if it is there. -/
def takeMark (m s : Text) : Bool × Text :=
  match Text.dropStart? m s with
  | some r => (true, r)
  | none => (false, s)

/-- The marks on the line for the property of this name and this type. -/
def readMarks? (name type line : Text) : Option Marks := do
  let r ← Text.dropStart? ("  " ++ name) line
  let (optional, r) := takeMark "?" r
  let r ← Text.dropStart? (": " ++ type) r
  let (many, r) := takeMark "[]" r
  let (nullable, r) := takeMark " | null" r
  if r.isEmpty then some ⟨optional, many, nullable⟩ else none

theorem dropStart?_append (p s : Text) : Text.dropStart? p (p ++ s) = some s :=
  Text.dropStart?_eq_some.2 rfl

theorem takeMark_mark {m s : Text} (h : Text.dropStart? m s = none) (there : Bool) :
    takeMark m (mark there m ++ s) = (there, s) := by
  unfold takeMark mark
  cases there with
  | true => rw [if_pos rfl, dropStart?_append]
  | false => rw [if_neg Bool.false_ne_true, List.nil_append, h]

theorem readMarks?_markedLine (name type : Text) (k : Marks) :
    readMarks? name type (markedLine name type k) = some k := by
  have hnull : takeMark " | null" (mark k.nullable " | null") = (k.nullable, []) := by
    have h := takeMark_mark (m := " | null") (s := []) rfl k.nullable
    rwa [List.append_nil] at h
  have hnot : Text.dropStart? "[]" (mark k.nullable " | null") = none := by
    cases k.nullable <;> rfl
  have hcolon : ∀ s : Text, Text.dropStart? "?" ((": " ++ type) ++ s) = none := fun _ => rfl
  unfold readMarks? markedLine
  simp only [Option.bind_eq_bind, Option.bind_some, dropStart?_append, takeMark_mark (hcolon _),
    takeMark_mark hnot, hnull]
  rfl

/-- The marks can be read off the line of a relation, whatever its name and its target are. -/
theorem readMarks?_interfaceProperty (f : Field) :
    readMarks? f.name (completeTypeName f.type) ("  " ++ interfaceProperty f)
      = some ⟨!f.isRequired, f.isList, !f.isRequired⟩ := by
  rw [← readMarks?_markedLine f.name (completeTypeName f.type)]
  congr 1
  unfold interfaceProperty markedLine
  cases f.isRequired <;> cases f.isList <;> simp [mark, Text.ofString, Text.ofChars]

/-! ## Modifiers -/

/-- A field whose documentation holds comments alone. -/
def HasNoDirectives (f : Field) : Prop :=
  (Documentation.ofText? f.documentation?).directives = []

/-- A relation brings no modifiers of its own, so that without directives there are at most two. -/
theorem modifiers_relationExpression (e : Emitter) {f : Field} (hf : f.isRelation = true)
    (hd : HasNoDirectives f) :
    (e.relationExpression f).modifiers = (if f.isList then [array] else [])
      ++ (if !f.isRequired && !f.hasType .json then [nullish] else []) := by
  have hk : f.kind ≠ .scalar := by
    rw [show f.kind = .relation from of_decide_eq_true hf]
    decide
  rw [relationExpression, hd, modifiers_of_named hk]
  unfold chosenTokens
  cases f.isList <;> cases !f.isRequired && !f.hasType .json <;> decide

/-! ## Line by line -/

/-- A line of a comment in the body of a schema. -/
def IsCommentLine (l : Text) : Prop := ∃ r, l = "  /**" ++ r ∨ l = "   *" ++ r

/-- What the body of the interface lists. -/
def interfaceBody (e : Emitter) (m : Model) : List Text := (e.completeInterface m).tail.dropLast

/-- What the body of the schema lists, behind the comment on it and its first line. -/
def schemaBody (e : Emitter) (m : Model) : List Text := ((e.completeSchema m).drop 6).dropLast

/-- A line of the interface and one of the schema are for the same relation, and the marks of the
one agree with the validator in the other. -/
structure AreViews (e : Emitter) (f : Field) (line line' : Text) : Prop where
  schema : line' = "  " ++ f.name ++ ": " ++ (e.relationExpression f).render ++ ","
  interface : ∃ k, readMarks? f.name (completeTypeName f.type) line = some k ∧
    k.optional = k.nullable ∧
    (HasNoDirectives f →
      (k.many = true ↔ array ∈ (e.relationExpression f).modifiers) ∧
      ((k.optional = true ↔ nullish ∈ (e.relationExpression f).modifiers) ↔
        (f.isRequired = true ∨ f.hasType .json = false)))

/-- Two bodies list the same relations in the same order; in the second one there may be comments
in front of a relation. -/
inductive ListsBoth (e : Emitter) : List Field → List Text → List Text → Prop
  | nil : ListsBoth e [] [] []
  | cons {f : Field} {fs : List Field} {line line' : Text} {lines comments lines' : List Text}
      (hc : ∀ l ∈ comments, IsCommentLine l) (hf : AreViews e f line line')
      (hfs : ListsBoth e fs lines lines') :
      ListsBoth e (f :: fs) (line :: lines) (comments ++ line' :: lines')

theorem indent_cons_of_not_isBlankText {l : Text} (h : Text.isBlankText l = false)
    (ls : List Text) : indent (l :: ls) = ("  " ++ l) :: indent ls := by
  unfold indent indentLines
  rw [List.map_cons, h]
  rfl

theorem indent_append (s t : List Text) : indent (s ++ t) = indent s ++ indent t :=
  List.map_append

/-- A property is not blank, since it has a colon. -/
theorem isBlankText_property (name rest : Text) :
    Text.isBlankText (name ++ (": " ++ rest)) = false := by
  unfold Text.isBlankText
  rw [List.all_append, List.all_append, Bool.and_eq_false_iff]
  exact .inr rfl

/-- Every line of a comment starts with a blank and a star, but the first one. -/
theorem isCommentLine_of_mem_commentBlock {ls : List Text} {l : Text}
    (hl : l ∈ indent (commentBlock ls)) : IsCommentLine l := by
  have hstar : ∀ s : Text, IsCommentLine ("  " ++ (" *" ++ s)) := fun s => ⟨s, .inr rfl⟩
  have hline : ∀ s, commentLine s = " *" ++ Text.trimEnd (" " ++ Text.replace '*' "/" "*\\/" s) :=
    fun s => Text.trimEnd_append_cons (c := '*') (by decide) " " _
  unfold commentBlock at hl
  split_ifs at hl
  · exact absurd hl (by simp [indent, indentLines])
  · obtain ⟨l', hl', rfl⟩ := List.mem_map.1 hl
    rw [List.concat_eq_append, List.mem_cons, List.mem_append, List.mem_map,
      List.mem_singleton] at hl'
    rcases hl' with rfl | ⟨s, -, rfl⟩ | rfl
    · exact ⟨[], .inl rfl⟩
    · have hblank : Text.isBlankText (commentLine s) = false := by
        rw [hline]
        rfl
      rw [hblank, hline]
      exact hstar _
    · exact hstar "/"

theorem areViews (e : Emitter) {f : Field} (hf : f.isRelation = true) :
    AreViews e f ("  " ++ interfaceProperty f)
      ("  " ++ f.name ++ ": " ++ (e.relationExpression f).render ++ ",") := by
  refine ⟨rfl, _, readMarks?_interfaceProperty f, rfl, fun hd => ?_⟩
  have hne : array ≠ nullish := by decide
  rw [modifiers_relationExpression e hf hd]
  constructor
  · cases f.isList <;> cases !f.isRequired && !f.hasType .json <;> simp [hne]
  · cases f.isList <;> cases f.isRequired <;> cases f.hasType .json <;> simp [hne.symm]

theorem interfaceBody_eq (e : Emitter) (m : Model) :
    e.interfaceBody m = indent (m.relationFields.map interfaceProperty) := by
  unfold interfaceBody completeInterface
  rw [List.singleton_append, List.cons_append, List.tail_cons, List.dropLast_concat]

theorem schemaBody_eq (e : Emitter) (m : Model) :
    e.schemaBody m
      = indent (m.relationFields.flatMap fun f => property f (e.relationExpression f)) := by
  unfold schemaBody completeSchema
  rw [List.append_assoc]
  exact List.dropLast_concat

theorem indent_property (f : Field) (x : Expression) :
    indent (property f x)
      = indent (commentBlock (Documentation.ofText? f.documentation?).comments)
        ++ [("  " ++ f.name ++ ": " ++ x.render ++ "," : Text)] := by
  have hline : Text.isBlankText (f.name ++ ": " ++ x.render ++ ",") = false := by
    rw [List.append_assoc, List.append_assoc]
    exact isBlankText_property _ _
  unfold property
  rw [indent_append, indent_cons_of_not_isBlankText hline]
  simp only [List.append_assoc]
  rfl

/-- Relation by relation, the bodies list the same. -/
theorem listsBoth_of_isRelation (e : Emitter) {fs : List Field}
    (hfs : ∀ f ∈ fs, f.isRelation = true) :
    ListsBoth e fs (indent (fs.map interfaceProperty))
      (indent (fs.flatMap fun f => property f (e.relationExpression f))) := by
  induction fs with
  | nil => exact .nil
  | cons f fs ih =>
    have hline : Text.isBlankText (interfaceProperty f) = false := by
      unfold interfaceProperty
      rw [List.append_assoc, List.append_assoc, List.append_assoc]
      exact isBlankText_property _ _
    rw [List.map_cons, List.flatMap_cons, indent_cons_of_not_isBlankText hline, indent_append,
      indent_property, List.append_assoc]
    exact .cons (fun l hl => isCommentLine_of_mem_commentBlock hl)
      (areViews e (hfs f List.mem_cons_self))
      (ih fun g hg => hfs g (List.mem_cons_of_mem _ hg))

/-- **The two views of a relation.**  The interface and the schema of a model list its relations
one by one, in the same order.  On a relation without directives `[]` stands where the validator
has `array()`, and `?` and `| null` where it has `nullish()`, unless the relation is optional and
leads to a model of the name `Json`. -/
theorem views_agree (e : Emitter) (m : Model) :
    ListsBoth e m.relationFields (e.interfaceBody m) (e.schemaBody m) := by
  rw [interfaceBody_eq, schemaBody_eq]
  exact listsBoth_of_isRelation e fun f hf => (List.mem_filter.1 hf).2

/-- An optional relation to a model of the name `Json` may be null in the interface and not in the
schema. -/
theorem not_views_agree :
    let f : Field := { name := "data", kind := .relation, type := "Json", isRequired := false }
    let m : Model := { name := "User", fields := [f] }
    let e : Emitter := ⟨{}, .empty, "@prisma/client", none⟩
    e.config.relationsEnabled = true ∧
      (Documentation.ofText? f.documentation?).directives = [] ∧ m.relationFields = [f] ∧
      e.interfaceBody m = [("  data?: CompleteJson | null" : Text)] ∧
      e.schemaBody m = [("  data: RelatedJsonModel," : Text)] ∧
      nullish ∉ (e.relationExpression f).modifiers := by
  decide +kernel

end ValidatorGen.Emitter
