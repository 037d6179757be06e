import ValidatorGen.Proofs.Schema.Header
import ValidatorGen.Proofs.Schema.Hints
import ValidatorGen.Proofs.Schema.Line

/-!
# Schema sources as they are written

A source is a list of model and view blocks with other lines between them.

* `blocks_lines` — the scan finds the blocks that were written, each with its lines;
* `ofSource_print` — the hints of a source are the column types that it is written with.
-/

namespace ValidatorGen.Schema

open Native

/-- A text without the end of a line. -/
def OnOneLine (s : Text) : Prop := ∀ c ∈ s, Text.isBoundary c = false

instance (s : Text) : Decidable (OnOneLine s) :=
  inferInstanceAs (Decidable (∀ c ∈ s, Text.isBoundary c = false))

theorem onOneLine_of_isWordText {s : Text} (h : IsWordText s) : OnOneLine s := by
  intro c hc
  by_contra hb
  have hblank := Text.isBlank_of_isBoundary (eq_true_of_ne_false hb)
  rw [Text.isBlank_eq_false_of_isWord (h.2 c hc)] at hblank
  exact Bool.noConfusion hblank

/-! ## Blocks -/

inductive Keyword
  | model
  | view

def Keyword.text : Keyword → Text
  | model => "model"
  | view => "view"

/-- A block of a model or view. -/
structure Declaration where
  keyword : Keyword := .model
  name : Text
  body : List Line
  isWordText_name : IsWordText name
  onOneLine_body : ∀ l ∈ body, OnOneLine l.text

namespace Declaration

variable (d : Declaration)

def header : Text := d.keyword.text ++ (" " ++ (d.name ++ " \x7b"))

def lines : List Text := d.header :: (d.body.map Line.text ++ [("\x7d" : Text)])

/-- The block as the scan finds it. -/
def block : Native.Block := ⟨d.name, d.body.map Line.text⟩

/-- The column types of its fields. -/
def annotations : List ((Text × Text) × Annotation) :=
  (d.body.filterMap Line.annotated?).map fun x => ((d.name, x.1), x.2)

theorem header?_header : header? d.header = some (d.name, []) := by
  have hkind : d.keyword.text = "model" ∨ d.keyword.text = "view" := by
    cases d.keyword
    · exact .inl rfl
    · exact .inr rfl
  let h : Header := {
    keyword := d.keyword.text, gap := " ", name := d.name, space := " "
    isBlankText_indent := rfl, isKeyword := hkind, isBlankText_gap := by decide
    gap_ne_nil := by decide, isWordText_name := d.isWordText_name
    isBlankText_space := by decide }
  have hread := h.header?_text_append []
  rwa [List.append_nil] at hread

theorem onOneLine_lines : ∀ l ∈ d.lines, OnOneLine l := by
  have hheader : OnOneLine d.header := by
    have hword : OnOneLine d.keyword.text := by
      cases d.keyword <;> decide
    unfold header OnOneLine
    simp only [List.forall_mem_append]
    exact ⟨hword, by decide, onOneLine_of_isWordText d.isWordText_name, by decide⟩
  rw [lines, List.forall_mem_cons, List.forall_mem_append, List.forall_mem_map]
  exact ⟨hheader, d.onOneLine_body, by decide⟩

/-- The scan finds a block that was written, and goes on behind it. -/
theorem blocks_lines (ls : List Text) : blocks (d.lines ++ ls) = d.block :: blocks ls := by
  have hbody : ∀ l ∈ d.body.map Line.text, (!closesBlock l) = true := by
    rw [List.forall_mem_map]
    intro l _
    rw [l.closesBlock_text]
    rfl
  have hclose : ∀ l ∈ ((("\x7d" : Text) :: ls).head?), (!closesBlock l) = false := by
    rintro l ⟨⟩
    decide
  rw [lines, List.cons_append, List.append_assoc, blocks, header?_header]
  simp only [List.singleton_append, takeWhile_append_stop hbody hclose,
    dropWhile_append_stop hbody hclose, List.tail_cons]
  rfl

theorem entries_block : d.block.entries = d.annotations.map fun x => (x.1, x.2.text) := by
  have hhints : (d.body.map Line.text).filterMap hint?
      = (d.body.filterMap Line.annotated?).map fun x => (x.1, x.2.text) := by
    rw [List.filterMap_map, List.map_filterMap]
    exact List.filterMap_congr fun l _ => l.hint?_text
  rw [Block.entries, block, hhints, annotations, List.map_map, List.map_map]
  rfl

end Declaration

/-! ## Sources -/

/-- A part of a source: a block, or a line outside of blocks. -/
inductive Part
  | declaration (d : Declaration)
  | other (s : Text) (h : header? s = none) (hs : OnOneLine s)

namespace Part

def lines : Part → List Text
  | declaration d => d.lines
  | other s _ _ => [s]

def declaration? : Part → Option Declaration
  | declaration d => some d
  | other _ _ _ => none

end Part

/-- The text of a source, each line ended by a line feed. -/
def print (ps : List Part) : Text := Text.unlines (ps.flatMap Part.lines)

theorem lines_print (ps : List Part) : Text.lines (print ps) = ps.flatMap Part.lines := by
  refine Text.lines_unlines fun l hl => ?_
  obtain ⟨p, -, hl⟩ := List.mem_flatMap.1 hl
  cases p with
  | declaration d => exact d.onOneLine_lines l hl
  | other s h hs => exact List.mem_singleton.1 hl ▸ hs

/-- The scan finds the blocks that were written. -/
theorem blocks_flatMap (ps : List Part) :
    blocks (ps.flatMap Part.lines) = (ps.filterMap Part.declaration?).map Declaration.block := by
  induction ps with
  | nil => rw [List.flatMap_nil, blocks]; rfl
  | cons p ps ih =>
    rw [List.flatMap_cons]
    cases p with
    | declaration d =>
      rw [Part.lines, d.blocks_lines, ih]
      rfl
    | other s h hs =>
      rw [Part.lines, List.singleton_append, blocks, h, ih]
      rfl

/-- The column types that a source is written with, each with its model and field. -/
def annotations (ps : List Part) : List ((Text × Text) × Annotation) :=
  (ps.filterMap Part.declaration?).flatMap Declaration.annotations

/-- The hints of a source are collected from its column types. -/
theorem collects_ofSource (ps : List Part) : Collects (Hints.ofSource (print ps)).models
    ((annotations ps).map fun x => (x.1, x.2.text)) := by
  have h := collects_nil.foldl (blocks (Text.lines (print ps)))
  have hentries : [] ++ (blocks (Text.lines (print ps))).flatMap Block.entries
      = (annotations ps).map fun x => (x.1, x.2.text) := by
    rw [List.nil_append, lines_print, blocks_flatMap, List.flatMap_map, annotations,
      List.map_flatMap]
    exact List.flatMap_congr fun d _ => d.entries_block
  rw [hentries] at h
  rw [Hints.ofSource, Hints.ofLines, h.ofModels]
  exact h

/-- **Printing and scanning.**  The hints of a source are the column types that it is written with,
the last one of each field; a model without one is not listed; and each is split into the tag and
the parameters that it is written with. -/
theorem ofSource_print (ps : List Part) :
    (∀ model field, (Hints.ofSource (print ps)).get? model field
      = (Ordered.get? (model, field) (annotations ps).reverse).map Annotation.text) ∧
      (∀ model, (Hints.ofSource (print ps)).contains model = true
        ↔ ∃ x ∈ annotations ps, x.1.1 = model) ∧
      (Hints.ofSource (print ps)).names.Nodup ∧
      (∀ e ∈ (Hints.ofSource (print ps)).models, (Ordered.keys e.2).Nodup) ∧
      ∀ x ∈ annotations ps, x.2.IsRegular →
        Native.Tag.ofText? x.2.text = some ⟨x.2.tag, x.2.params?.getD []⟩ := by
  have h := collects_ofSource ps
  refine ⟨fun model field => ?_, fun model => ?_, h.nodup, fun e he => ?_,
    fun x _ hx => x.2.ofText?_text hx⟩
  · rw [← Ordered.get?_map, List.map_reverse]
    exact h.get? model field
  · rw [Hints.contains, h.isSome_iff]
    simp only [List.mem_map, exists_exists_and_eq_and]
  · exact (h.fields e.1 e.2 (Ordered.get?_eq_some_of_mem h.nodup he)).2

/-- Two blocks of one model, with a comment that is full of signs, and lines outside of blocks. -/
theorem ofSource_print_post :
    let varChar : Annotation := ⟨"VarChar", some ["255"], by decide, by decide, by decide⟩
    let decimal : Annotation := ⟨"Decimal", some ["10", "2"], by decide, by decide, by decide⟩
    let plain : Annotation := ⟨"Text", none, by decide, by decide, by decide⟩
    let title : Field := ⟨"  ", "title", " ", "String @unique ", some varChar, some "\"\x7d\" @db.Text",
      by decide, by decide, by decide, by decide, by decide, by decide, by decide, by decide +kernel⟩
    let price : Field := ⟨"  ", "price", " ", "Float? @default(0) ", some decimal, none,
      by decide, by decide, by decide, by decide, by decide, by decide, by decide, by decide +kernel⟩
    let note : Field := ⟨"  ", "title", " ", "String ", some plain, none,
      by decide, by decide, by decide, by decide, by decide, by decide, by decide, by decide +kernel⟩
    let post : Declaration := ⟨.model, "Post", [.comment "  " " @db.Uuid" (by decide), .field title,
      .blank "" (by decide), .field price, .setting "  " "index([title])" (by decide)],
      by decide, by decide +kernel⟩
    let view : Declaration := ⟨.view, "Post", [.field note], by decide, by decide +kernel⟩
    let ps : List Part := [.other "enum db \x7b" (by decide +kernel) (by decide +kernel),
      .declaration post, .other "  id Int @db.Uuid" (by decide +kernel) (by decide +kernel),
      .declaration view]
    (Hints.ofSource (print ps)).get? "Post" "title" = some "Text" ∧
      (Hints.ofSource (print ps)).get? "Post" "price" = some "Decimal(10, 2)" ∧
      (Hints.ofSource (print ps)).contains "db" = false ∧
      Native.Tag.ofText? decimal.text = some ⟨"Decimal", ["10", "2"]⟩ := by
  intro varChar decimal plain title price note post view ps
  obtain ⟨hget, hcontains, -, -, hsplit⟩ := ofSource_print ps
  have hprice : ((("Post" : Text), ("price" : Text)), decimal) ∈ annotations ps :=
    List.mem_cons_of_mem _ List.mem_cons_self
  have hdb : ∀ x ∈ annotations ps, x.1.1 ≠ "db" := by decide +kernel
  refine ⟨(hget _ _).trans (by decide +kernel), (hget _ _).trans (by decide +kernel), ?_,
    hsplit _ hprice ⟨by decide, by decide +kernel⟩⟩
  rw [← Bool.not_eq_true, hcontains]
  rintro ⟨x, hx, hmodel⟩
  exact hdb x hx hmodel

end ValidatorGen.Schema
