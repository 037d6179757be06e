import ValidatorGen.Proofs.Documentation
import ValidatorGen.Proofs.Relation

/-!
# Comments in a schema

What a documentation says stands in comments in front of the code, whatever its text is.

* `not_closesComment_escaped` — an escaped line does not end a comment;
* `IsComment.deleteComments_append`, `isComment_commentBlock` — a comment that is written is one run
  of lines, and can be deleted as one;
* `deleteComments_properties` — without comments a body has one line for each field;
* `deleteComments_scalarSchema` — so without them the schema of a model is that of the model without
  documentation.
-/

namespace ValidatorGen

namespace Emit

/-! ## Deleting comments -/

/-- The line holds the end of a comment. -/
def ClosesComment (l : Text) : Prop := ("*/" : Text) <:+: l

instance (l : Text) : Decidable (ClosesComment l) := inferInstanceAs (Decidable (_ <:+: _))

/-- The lines behind the first one that ends a comment. -/
def behindComment? : List Text → Option (List Text)
  | [] => none
  | l :: ls => if ClosesComment l then some ls else behindComment? ls

theorem length_lt_of_behindComment? {ls r : List Text} (h : behindComment? ls = some r) :
    r.length < ls.length := by
  induction ls with
  | nil => simp [behindComment?] at h
  | cons l ls ih =>
    rw [behindComment?] at h
    split_ifs at h
    · cases h
      simp
    · have := ih h
      simp
      omega

/-- Deletes every run of lines from one that opens a comment, blanks around it apart, to the next
one that ends a comment. -/
def deleteComments : List Text → List Text
  | [] => []
  | l :: ls =>
    match h : if Text.trim l = "/**" then behindComment? ls else none with
    | none => l :: deleteComments ls
    | some r =>
      have : r.length < ls.length := by
        split_ifs at h
        exact length_lt_of_behindComment? h
      deleteComments r
termination_by ls => ls.length

theorem deleteComments_cons {l : Text} (h : Text.trim l ≠ "/**") (ls : List Text) :
    deleteComments (l :: ls) = l :: deleteComments ls := by
  rw [deleteComments]
  split
  · rfl
  · rename_i hr
    rw [if_neg h] at hr
    cases hr

theorem behindComment?_append {body : List Text} (hbody : ∀ l ∈ body, ¬ ClosesComment l)
    {x : Text} (hx : ClosesComment x) (ls : List Text) :
    behindComment? (body ++ x :: ls) = some ls := by
  induction body with
  | nil => exact if_pos hx
  | cons l body ih =>
    obtain ⟨hl, hbody⟩ := List.forall_mem_cons.1 hbody
    rw [List.cons_append, behindComment?, if_neg hl, ih hbody]

/-- The lines of one comment. -/
def IsComment (ls : List Text) : Prop :=
  ∃ o body x, ls = o :: (body ++ [x]) ∧ Text.trim o = "/**" ∧
    (∀ l ∈ body, ¬ ClosesComment l) ∧ ClosesComment x

theorem IsComment.deleteComments_append {ls : List Text} (h : IsComment ls) (ks : List Text) :
    deleteComments (ls ++ ks) = deleteComments ks := by
  obtain ⟨o, body, x, rfl, ho, hbody, hx⟩ := h
  have hbehind : behindComment? (body ++ [x] ++ ks) = some ks := by
    rw [List.append_assoc]
    exact behindComment?_append hbody hx ks
  rw [List.cons_append, deleteComments]
  split
  · rename_i hr
    rw [if_pos ho, hbehind] at hr
    cases hr
  · rename_i r hr
    rw [if_pos ho, hbehind] at hr
    cases hr
    rfl

/-! ## Comments as they are written -/

theorem closesComment_cons_iff {c : CodePoint} {l : Text} :
    ClosesComment (c :: l) ↔ (c = .char '*' ∧ l.head? = some (.char '/')) ∨ ClosesComment l := by
  have hprefix : ("*/" : Text) <+: c :: l ↔ c = .char '*' ∧ l.head? = some (.char '/') := by
    show CodePoint.char '*' :: [CodePoint.char '/'] <+: c :: l ↔ _
    rw [List.cons_prefix_cons]
    cases l with
    | nil => simp
    | cons d l => simp [List.cons_prefix_cons, eq_comm]
  unfold ClosesComment
  rw [List.infix_cons_iff, hprefix]

theorem not_closesComment_nil : ¬ ClosesComment [] := by decide

/-- A line with its `*/` escaped. -/
def escaped (l : Text) : Text := Text.replace '*' "/" "*\\/" l

theorem head?_escaped (l : Text) : (escaped l).head? = l.head? := by
  unfold escaped
  fun_cases Text.replace '*' "/" "*\\/" l with
  | case1 => rfl
  | case2 => rfl
  | case3 => rfl
  | case4 => rfl

/-- An escaped line does not end a comment. -/
theorem not_closesComment_escaped (l : Text) : ¬ ClosesComment (escaped l) := by
  unfold escaped
  fun_induction Text.replace '*' "/" "*\\/" l with
  | case1 => exact not_closesComment_nil
  | case2 r hr ih =>
    rw [closesComment_cons_iff, not_or]
    refine ⟨?_, ih⟩
    rintro ⟨-, hslash⟩
    rw [show (Text.replace '*' "/" "*\\/" r).head? = r.head? from head?_escaped r] at hslash
    obtain ⟨u, rfl⟩ := List.head?_eq_some_iff.1 hslash
    have hslash : Text.dropStart? "/" (.char '/' :: u) = some u := Text.dropStart?_eq_some.2 rfl
    rw [hslash] at hr
    cases hr
  | case3 r u hu _ ih =>
    show ¬ ClosesComment (.char '*' :: .char '\\' :: .char '/' :: Text.replace '*' "/" "*\\/" u)
    rw [closesComment_cons_iff, closesComment_cons_iff, closesComment_cons_iff]
    simp [ih]
  | case4 c r hc ih =>
    rw [closesComment_cons_iff, not_or]
    exact ⟨fun h => hc h.1, ih⟩

theorem not_closesComment_commentLine (l : Text) : ¬ ClosesComment (commentLine l) := by
  intro h
  have hline : ClosesComment (.char ' ' :: .char '*' :: .char ' ' :: escaped l) :=
    h.trans (Text.trimEnd_prefix _).isInfix
  rw [closesComment_cons_iff, closesComment_cons_iff, closesComment_cons_iff] at hline
  simp [not_closesComment_escaped] at hline

theorem isComment_commentBlock {ls : List Text} (h : ls ≠ []) : IsComment (commentBlock ls) := by
  refine ⟨"/**", ls.map commentLine, " */", ?_, by decide, ?_, by decide⟩
  · rw [commentBlock, if_neg (by simpa using h), List.concat_eq_append]
  · exact List.forall_mem_map.2 fun l _ => not_closesComment_commentLine l

theorem closesComment_indent_iff {l : Text} : ClosesComment ("  " ++ l) ↔ ClosesComment l := by
  show ClosesComment (.char ' ' :: .char ' ' :: l) ↔ _
  rw [closesComment_cons_iff, closesComment_cons_iff]
  simp

/-- An indented comment is a comment.  Only lines that are not blank are moved, but neither blanks
in front nor their absence matter. -/
theorem IsComment.indent {ls : List Text} (h : IsComment ls) : IsComment (indent ls) := by
  obtain ⟨o, body, x, rfl, ho, hbody, hx⟩ := h
  let shift : Text → Text := fun l => if Text.isBlankText l then l else "  " ++ l
  have hclose : ∀ l, ClosesComment (shift l) ↔ ClosesComment l := fun l => by
    unfold shift
    split_ifs
    · rfl
    · exact closesComment_indent_iff
  have htrim : Text.trim (shift o) = "/**" := by
    unfold shift
    split_ifs
    · exact ho
    · rw [Text.trim_append (by decide), ho]
  refine ⟨shift o, body.map shift, shift x, ?_, htrim, ?_, (hclose x).2 hx⟩
  · rw [Emit.indent, indentLines, List.map_cons, List.map_append]
    rfl
  · exact List.forall_mem_map.2 fun l hl hc => hbody l hl ((hclose l).1 hc)

theorem deleteComments_commentBlock (ls ks : List Text) :
    deleteComments (commentBlock ls ++ ks) = deleteComments ks := by
  by_cases h : ls = []
  · subst h
    rfl
  · exact (isComment_commentBlock h).deleteComments_append ks

theorem deleteComments_indent_commentBlock (ls ks : List Text) :
    deleteComments (indent (commentBlock ls) ++ ks) = deleteComments ks := by
  by_cases h : ls = []
  · subst h
    rfl
  · exact (isComment_commentBlock h).indent.deleteComments_append ks

/-- A line that ends in another character does not open a comment. -/
theorem deleteComments_cons_concat {c : CodePoint} (hc : Text.isBlank c = false)
    (hne : c ≠ .char '*') (s : Text) (ls : List Text) :
    deleteComments ((s ++ [c]) :: ls) = (s ++ [c]) :: deleteComments ls := by
  refine deleteComments_cons (fun h => hne ?_) ls
  obtain ⟨t, ht⟩ := Text.exists_trim_concat hc s
  rw [ht] at h
  have hlast := congrArg List.getLast? h
  rw [List.getLast?_concat] at hlast
  exact Option.some.inj hlast

end Emit

/-! ## Schemas with and without documentation -/

/-- The field without its documentation. -/
def Field.undocumented (f : Field) : Field := { f with documentation? := none }

/-- The model without its documentation and that of its fields. -/
def Model.undocumented (m : Model) : Model :=
  { m with fields := m.fields.map Field.undocumented, documentation? := none }

theorem Model.scalarFields_undocumented (m : Model) :
    m.undocumented.scalarFields = m.scalarFields.map Field.undocumented :=
  List.filter_map

/-- No line of the documentation carries a chain. -/
def Documentation.HasNoChain (text? : Option Text) : Prop :=
  ∀ text ∈ text?, ∀ l ∈ Text.lines text, ¬ CarriesChain l

theorem Documentation.HasNoChain.directives_eq_nil {text? : Option Text} (h : HasNoChain text?) :
    (ofText? text?).directives = [] := by
  cases text? with
  | none => rfl
  | some text =>
    refine List.flatMap_eq_nil_iff.2 fun l hl => ?_
    have hline : ¬ (chain? l).isSome = true := fun hs => h text rfl l hl (isDirectiveLine_iff.1 hs)
    rw [lineDirectives, Option.not_isSome_iff_eq_none.1 hline]

namespace Emitter

open Emit

/-- The first line of the schema of a model. -/
def schemaOpening (e : Emitter) (m : Model) : Text :=
  "export const " ++ e.config.modelSchemaName m.name ++ " = z.object(\x7b"

/-- The line of a field in the schema of its model. -/
def propertyLine (e : Emitter) (model : Text) (f : Field) : Text :=
  "  " ++ f.name ++ ": " ++ (e.scalarExpression model f).render ++ ","

/-- The lines of a schema that are no comments: for each field one. -/
def schemaCode (e : Emitter) (m : Model) : List Text :=
  e.schemaOpening m :: (m.scalarFields.map (e.propertyLine m.name) ++ [("\x7d)" : Text)])

theorem scalarExpression_undocumented (e : Emitter) (model : Text) {f : Field}
    (h : Documentation.HasNoChain f.documentation?) :
    e.scalarExpression model f.undocumented = e.scalarExpression model f := by
  have hnone : (Documentation.ofText? f.undocumented.documentation?).directives = [] := rfl
  rw [scalarExpression, scalarExpression, h.directives_eq_nil, hnone]
  rfl

theorem deleteComments_propertyLine (e : Emitter) (model : Text) (f : Field) (ls : List Text) :
    deleteComments (e.propertyLine model f :: ls) = e.propertyLine model f :: deleteComments ls :=
  deleteComments_cons_concat (c := ',') (by decide) (by decide) _ ls

/-- Comments of the fields apart, a body has one line for each field. -/
theorem deleteComments_properties (e : Emitter) (model : Text) (fs : List Field)
    (ks : List Text) :
    deleteComments (indent (fs.flatMap fun f => property f (e.scalarExpression model f)) ++ ks)
      = fs.map (e.propertyLine model) ++ deleteComments ks := by
  induction fs with
  | nil => rfl
  | cons f fs ih =>
    rw [List.flatMap_cons, indent_append, indent_property, List.append_assoc, List.append_assoc,
      deleteComments_indent_commentBlock]
    exact (deleteComments_propertyLine e model f _).trans
      (congrArg (e.propertyLine model f :: ·) ih)

/-- Without documentation a schema is its code. -/
theorem scalarSchema_undocumented (e : Emitter) {m : Model}
    (h : ∀ f ∈ m.scalarFields, Documentation.HasNoChain f.documentation?) :
    e.scalarSchema m.undocumented = e.schemaCode m := by
  have hbody : ∀ fs : List Field, (∀ f ∈ fs, Documentation.HasNoChain f.documentation?) →
      indent ((fs.map Field.undocumented).flatMap fun f => property f (e.scalarExpression m.name f))
        = fs.map (e.propertyLine m.name) := by
    intro fs hfs
    induction fs with
    | nil => rfl
    | cons f fs ih =>
      obtain ⟨hf, hfs⟩ := List.forall_mem_cons.1 hfs
      rw [List.map_cons, List.flatMap_cons, indent_append, indent_property, ih hfs,
        scalarExpression_undocumented e m.name hf]
      rfl
  rw [scalarSchema, Model.scalarFields_undocumented]
  rw [show m.undocumented.name = m.name from rfl, hbody _ h]
  rfl

theorem deleteComments_scalarSchema_eq (e : Emitter) (m : Model) :
    deleteComments (e.scalarSchema m) = e.schemaCode m := by
  have hbrace : e.schemaOpening m
      = ("export const " ++ e.config.modelSchemaName m.name ++ " = z.object(" : Text)
        ++ [.char '\x7b'] := by
    rw [List.append_assoc _ _ [_]]
    rfl
  have hopening : ∀ ls, deleteComments (e.schemaOpening m :: ls)
      = e.schemaOpening m :: deleteComments ls := by
    rw [hbrace]
    exact deleteComments_cons_concat (by decide) (by decide) _
  have hend : deleteComments [("\x7d)" : Text)] = [("\x7d)" : Text)] := by
    rw [deleteComments_cons (by decide), deleteComments]
  calc deleteComments (e.scalarSchema m)
      = deleteComments (e.schemaOpening m
          :: (indent (m.scalarFields.flatMap fun f => property f (e.scalarExpression m.name f))
            ++ [("\x7d)" : Text)])) := by
        rw [scalarSchema, List.append_assoc, List.append_assoc, deleteComments_commentBlock]
        rfl
    _ = e.schemaCode m := by rw [hopening, deleteComments_properties, hend, schemaCode]

/-! ### Lines of the text -/

/-- A line of a comment is one line, since documentation is read line by line. -/
theorem isBoundary_of_mem_commentBlock {text? : Option Text} {l : Text}
    (hl : l ∈ commentBlock (Documentation.ofText? text?).comments) {c : CodePoint} (hc : c ∈ l) :
    Text.isBoundary c = false := by
  have hsigns : ∀ s ∈ (["/**", " */", " * ", "*\\/"] : List Text), ∀ c ∈ s,
      Text.isBoundary c = false := by decide
  unfold commentBlock at hl
  split_ifs at hl
  · simp at hl
  rw [List.concat_eq_append, List.mem_cons, List.mem_append, List.mem_map,
    List.mem_singleton] at hl
  rcases hl with rfl | ⟨k, hk, rfl⟩ | rfl
  · exact hsigns _ (by decide) c hc
  · obtain hc | hc := List.mem_append.1 ((Text.trimEnd_prefix _).subset hc)
    · exact hsigns _ (by decide) c hc
    · rcases Text.mem_replace hc with hc | hc
      · cases text? with
        | none => simp [Documentation.ofText?] at hk
        | some text => exact Text.isBoundary_of_mem_lines (List.mem_filter.1 hk).1 hc
      · exact hsigns _ (by decide) c hc
  · exact hsigns _ (by decide) c hc

theorem isBoundary_of_mem_indent {ls : List Text}
    (h : ∀ l ∈ ls, ∀ c ∈ l, Text.isBoundary c = false) {l : Text} (hl : l ∈ indent ls) :
    ∀ c ∈ l, Text.isBoundary c = false := by
  obtain ⟨k, hk, rfl⟩ := List.mem_map.1 hl
  split_ifs
  · exact h k hk
  · rw [List.forall_mem_append]
    exact ⟨by decide, h k hk⟩

/-- Every line of a schema is code or one line of a comment. -/
theorem of_mem_scalarSchema (e : Emitter) (m : Model) {l : Text} (hl : l ∈ e.scalarSchema m) :
    l ∈ e.schemaCode m ∨ ∀ c ∈ l, Text.isBoundary c = false := by
  rw [scalarSchema, List.mem_append, List.mem_append, List.mem_append, List.mem_singleton,
    List.mem_singleton] at hl
  rcases hl with ((hl | rfl) | hl) | rfl
  · exact .inr fun c => isBoundary_of_mem_commentBlock hl
  · exact .inl List.mem_cons_self
  · rw [indent, indentLines, List.map_flatMap] at hl
    obtain ⟨f, hf, hl⟩ := List.mem_flatMap.1 hl
    have hproperty := indent_property f (e.scalarExpression m.name f)
    rw [indent, indentLines] at hproperty
    rw [hproperty, List.mem_append, List.mem_singleton] at hl
    rcases hl with hl | rfl
    · exact .inr (isBoundary_of_mem_indent (fun k hk c => isBoundary_of_mem_commentBlock hk) hl)
    · exact .inl (List.mem_cons_of_mem _ (List.mem_append_left _ (List.mem_map_of_mem hf)))
  · exact .inl (List.mem_cons_of_mem _ (List.mem_append_right _ (List.mem_singleton_self _)))

/-- **Comments are inert.**  Deleting the comments from the schema of a model whose fields carry no
directives leaves the schema of the model without documentation; and if each line of code is one
line of the text, the comments do not change that. -/
theorem deleteComments_scalarSchema (e : Emitter) (m : Model)
    (h : ∀ f ∈ m.scalarFields, Documentation.HasNoChain f.documentation?) :
    deleteComments (e.scalarSchema m) = e.scalarSchema m.undocumented ∧
      ((∀ l ∈ e.scalarSchema m.undocumented, ∀ c ∈ l, Text.isBoundary c = false) →
        Text.lines (Text.unlines (e.scalarSchema m)) = e.scalarSchema m) := by
  rw [deleteComments_scalarSchema_eq, scalarSchema_undocumented e h]
  refine ⟨rfl, fun hcode => Text.lines_unlines fun l hl => ?_⟩
  exact (of_mem_scalarSchema e m hl).elim (hcode l) id

/-- Documentation that opens and ends comments, with two kinds of line ends. -/
theorem deleteComments_scalarSchema_user :
    let name : Field :=
      { name := "name", type := "String", documentation? := some "/** @zod\r*/ name *\u2028/**" }
    let m : Model := { name := "User", fields := [name], documentation? := some "A user.\n */" }
    let e : Emitter := ⟨{}, .empty, "@prisma/client", none⟩
    (∀ f ∈ m.scalarFields, Documentation.HasNoChain f.documentation?) ∧
      e.scalarSchema m = [("/**" : Text), " * A user.", " *  *\\/", " */",
        "export const UserModel = z.object(\x7b", "  /**", "   * /** @zod", "   * *\\/ name *",
        "   * /**", "   */", "  name: z.string(),", "\x7d)"] ∧
      deleteComments (e.scalarSchema m) = e.scalarSchema m.undocumented ∧
      (∀ l ∈ e.scalarSchema m.undocumented, ∀ c ∈ l, Text.isBoundary c = false) ∧
      Text.lines (Text.unlines (e.scalarSchema m)) = e.scalarSchema m := by
  intro name m e
  have hdocs : ∀ f ∈ m.scalarFields, Documentation.HasNoChain f.documentation? := by
    unfold Documentation.HasNoChain
    decide +kernel
  have hcode : ∀ l ∈ e.scalarSchema m.undocumented, ∀ c ∈ l, Text.isBoundary c = false := by
    decide +kernel
  obtain ⟨hdelete, hlines⟩ := deleteComments_scalarSchema e m hdocs
  exact ⟨hdocs, by decide +kernel, hdelete, hcode, hlines hcode⟩

end Emitter

end ValidatorGen
