import ValidatorGen.Proofs.Schema.Annotation

/-!
# The lines of a model block

Inside a block a line is blank, a comment, an attribute of the block or a field.  A field has a
name, a type and attributes; a column type may follow, and a comment behind all of it.

* `code_append` — a line up to its comment;
* `attribute?_append` — the attributes in front of a column type are passed over;
* `hint?_text` — from each line the scan takes the column type that it is written with;
* `closesBlock_text` — no line of a block ends it.
-/

namespace ValidatorGen.Schema

open Native

/-! ## Comments -/

theorem code_cons {c : CodePoint} (hc : isBare c = true) (hslash : c ≠ .char '\\') (s : Text) :
    code false (c :: s) = c :: code false s := by
  rw [isBare, Bool.not_eq_true', Bool.or_eq_false_iff] at hc
  have hquote : (c == .char '"') = false := by simpa [CodePoint.is] using hc.1
  have hstart : decide (c = .char '/') = false := hc.2
  rw [code, hstart, hquote]
  · rfl
  · exact fun _ _ h => absurd h hslash

theorem getLast?_of_cons {c : CodePoint} {s : Text} {b : CodePoint} (h : (c :: s).getLast? ≠ some b) :
    s.getLast? ≠ some b := fun hs => h (by rw [List.getLast?_cons, hs]; rfl)

/-- What stands in front of a comment, or of nothing, is kept; a backslash at its end would take
the first slash with it. -/
theorem code_append {s t : Text} (hs : ∀ c ∈ s, isBare c = true)
    (ht : t = [] ∨ s.getLast? ≠ some (.char '\\')) : code false (s ++ t) = s ++ code false t := by
  match s with
  | [] => rfl
  | c :: s =>
    have hrest := (List.forall_mem_cons.1 hs).2
    have hlast : t = [] ∨ s.getLast? ≠ some (.char '\\') := ht.imp_right getLast?_of_cons
    by_cases hc : c = .char '\\'
    · subst hc
      cases s with
      | nil =>
        rw [ht.resolve_right fun h => h rfl]
        rfl
      | cons d s =>
        have ih := code_append (List.forall_mem_cons.1 hrest).2 (hlast.imp_right getLast?_of_cons)
        rw [List.cons_append, List.cons_append, code, ih, List.cons_append, List.cons_append]
    · have ih := code_append hrest hlast
      rw [List.cons_append, code_cons (List.forall_mem_cons.1 hs).1 hc, ih, List.cons_append]
termination_by s.length

/-! ## Attributes -/

theorem attribute?_eq_none {s : Text} (h : ¬ ("@db." : Text) <:+: s) : attribute? s = none := by
  induction s with
  | nil => rfl
  | cons c s ih =>
    have hstart : Text.dropStart? "@db." (c :: s) = none := by
      rw [Option.eq_none_iff_forall_not_mem]
      intro r hr
      exact h ⟨[], r, by rw [List.nil_append]; exact (Text.dropStart?_eq_some.1 hr).symm⟩
    rw [attribute?, hstart]
    exact ih fun hs => h (hs.trans (List.suffix_cons c s).isInfix)

/-- An attribute cannot start in the text in front of it: its first character comes only once. -/
theorem dropStart?_eq_none {c : CodePoint} {d t : Text} (h : ¬ ("@db." : Text) <+: c :: d) :
    Text.dropStart? "@db." (c :: d ++ ("@db." ++ t)) = none := by
  rw [Option.eq_none_iff_forall_not_mem]
  intro r hr
  rcases List.append_eq_append_iff.1 (Text.dropStart?_eq_some.1 hr) with ⟨u, hu, hr⟩ | ⟨u, hu, -⟩
  · cases u with
    | nil => exact h ⟨[], by rw [hu, List.append_nil, List.append_nil]⟩
    | cons x u =>
      have hx : x = .char '@' := (List.cons.inj hr).1.symm
      have htail : ([.char 'd', .char 'b', .char '.'] : Text) = d ++ x :: u := (List.cons.inj hu).2
      have hmem : CodePoint.char '@' ∈ ([.char 'd', .char 'b', .char '.'] : Text) := by
        rw [htail, ← hx]
        exact List.mem_append_right _ List.mem_cons_self
      exact absurd hmem (by decide)
  · exact h ⟨u, hu.symm⟩

theorem attribute?_of_dropStart? {s t r : Text} (h : Text.dropStart? "@db." s = some t)
    (ht : columnType? t = some r) : attribute? s = some r := by
  cases s with
  | nil => cases (show none = some t from h)
  | cons c s => rw [attribute?, h, Option.bind_some, ht]

theorem attribute?_append {d t r : Text} (hd : ¬ ("@db." : Text) <:+: d)
    (ht : columnType? t = some r) : attribute? (d ++ ("@db." ++ t)) = some r := by
  induction d with
  | nil => exact attribute?_of_dropStart? (Text.dropStart?_eq_some.2 rfl) ht
  | cons c d ih =>
    rw [List.cons_append, attribute?, ← List.cons_append,
      dropStart?_eq_none fun h => hd h.isInfix]
    exact ih fun h => hd (h.trans (List.suffix_cons c d).isInfix)

/-! ## Fields -/

/-- A word, blanks and what follows are the name and the attributes of a field. -/
theorem fieldLine?_append {name gap : Text} {c : CodePoint} {r : Text} (hname : IsWordText name)
    (hgap : Text.isBlankText gap = true) (hne : gap ≠ []) (hc : Text.isBlank c = false) :
    fieldLine? (name ++ (gap ++ c :: r)) = some (name, c :: r) := by
  obtain ⟨b, bs, rfl⟩ := List.exists_cons_of_ne_nil hne
  have hb : Text.isBlank b = true := List.all_eq_true.1 hgap b List.mem_cons_self
  have hstop : ∀ x ∈ (b :: bs ++ c :: r).head?, Text.isWord x = false := by
    rintro x ⟨⟩
    exact Text.isWord_eq_false_of_isBlank hb
  have hrest : Text.trimStart (b :: bs ++ c :: r) = c :: r := by
    rw [Text.trimStart_append hgap, Text.trimStart_cons_of_not_isBlank hc]
  simp only [fieldLine?, takeWhile_append_stop hname.2 hstop, dropWhile_append_stop hname.2 hstop,
    hrest, List.isEmpty_eq_false_iff.2 hname.1]
  simp [hb]

/-- A field: its name, its type and attributes with the blanks behind them, its column type and its
comment. -/
structure Field where
  indent : Text := []
  name : Text
  gap : Text
  detail : Text
  annotation? : Option Annotation := none
  comment? : Option Text := none
  isBlankText_indent : Text.isBlankText indent = true
  isWordText_name : IsWordText name
  isBlankText_gap : Text.isBlankText gap = true
  gap_ne_nil : gap ≠ []
  detail_ne_nil : detail ≠ []
  detail_head : ∀ c ∈ detail.head?, Text.isBlank c = false
  isBare_detail : detail.all isBare = true
  not_attribute : ¬ ("@db." : Text) <:+: detail

namespace Field

def annotationText : Option Annotation → Text
  | none => []
  | some a => "@db." ++ a.text

def commentText : Option Text → Text
  | none => []
  | some c => " //" ++ c

/-- The type and all attributes. -/
def attributes (f : Field) : Text := f.detail ++ annotationText f.annotation?

/-- The line up to the comment. -/
def front (f : Field) : Text := f.indent ++ (f.name ++ (f.gap ++ f.attributes))

def text (f : Field) : Text := f.front ++ commentText f.comment?

variable (f : Field)

theorem isBare_front : ∀ c ∈ f.front, isBare c = true := by
  have hannotation : ∀ c ∈ annotationText f.annotation?, isBare c = true := by
    intro c hc
    unfold annotationText at hc
    split at hc
    · exact absurd hc List.not_mem_nil
    · rename_i a _
      rcases List.mem_append.1 hc with hc | hc
      · exact List.all_eq_true.1 (by decide : ("@db." : Text).all isBare = true) c hc
      · exact a.isBare_of_mem_text hc
  have hblank : ∀ s : Text, Text.isBlankText s = true → ∀ c ∈ s, isBare c = true :=
    fun s hs c hc => isBare_of_isBlank (List.all_eq_true.1 hs c hc)
  simp only [front, attributes, List.forall_mem_append]
  exact ⟨hblank _ f.isBlankText_indent, fun c hc => isBare_of_isWord (f.isWordText_name.2 c hc),
    hblank _ f.isBlankText_gap, List.all_eq_true.1 f.isBare_detail, hannotation⟩

/-- Without its comment the line is what stands in front, up to a blank. -/
theorem exists_stripComment :
    ∃ b, Text.isBlankText b = true ∧ stripComment f.text = f.front ++ b := by
  rw [text]
  cases f.comment? with
  | none => exact ⟨[], rfl, code_append f.isBare_front (.inl rfl)⟩
  | some c =>
    have hbare : ∀ c ∈ f.front ++ [.char ' '], isBare c = true := by
      rw [List.forall_mem_append]
      exact ⟨f.isBare_front, by decide⟩
    have hlast : (f.front ++ [CodePoint.char ' ']).getLast? ≠ some (.char '\\') := by
      rw [List.getLast?_concat]
      decide
    refine ⟨[.char ' '], by decide, ?_⟩
    have h := code_append (t := .char '/' :: .char '/' :: c) hbare (.inr hlast)
    rw [List.append_assoc] at h
    exact h.trans (List.append_nil _)

theorem exists_attributes : ∃ c r, f.attributes = c :: r ∧ Text.isBlank c = false := by
  obtain ⟨c, r, hr⟩ := List.exists_cons_of_ne_nil f.detail_ne_nil
  exact ⟨c, r ++ annotationText f.annotation?, by rw [attributes, hr, List.cons_append],
    f.detail_head c (by rw [hr]; rfl)⟩

theorem trim_stripComment :
    Text.trim (stripComment f.text) = f.name ++ (f.gap ++ Text.trimEnd f.attributes) := by
  obtain ⟨b, hb, hstrip⟩ := f.exists_stripComment
  obtain ⟨c, r, hr, hc⟩ := f.exists_attributes
  have hend : Text.trimEnd (c :: r) = c :: Text.trimEnd r := Text.trimEnd_append_cons hc [] r
  rw [hstrip, front, List.append_assoc, List.append_assoc, Text.trim,
    trimStart_append_isWordText f.isBlankText_indent f.isWordText_name, ← List.append_assoc,
    Text.trimEnd_append hb, hr, hend, ← List.append_assoc, Text.trimEnd_append_cons hc,
    List.append_assoc]

theorem attribute?_attributes :
    attribute? (Text.trimEnd f.attributes) = f.annotation?.map Annotation.text := by
  rw [attributes]
  cases f.annotation? with
  | none =>
    rw [annotationText, List.append_nil, Option.map_none]
    exact attribute?_eq_none fun h =>
      f.not_attribute (h.trans (Text.trimEnd_prefix f.detail).isInfix)
  | some a =>
    obtain ⟨s, c, hs, hc⟩ := a.exists_text_eq
    have hend : Text.trimEnd (f.detail ++ annotationText (some a))
        = f.detail ++ annotationText (some a) := by
      rw [annotationText, hs, ← List.append_assoc, ← List.append_assoc]
      exact Text.trimEnd_append_of_not_isBlank hc
    rw [hend]
    exact attribute?_append f.not_attribute a.columnType?_text

/-- The scan takes from a field the column type that it is written with. -/
theorem hint?_text : hint? f.text = f.annotation?.map fun a => (f.name, a.text) := by
  obtain ⟨c, r, hr, hc⟩ := f.exists_attributes
  have hend : Text.trimEnd f.attributes = c :: Text.trimEnd r := by
    rw [hr]
    exact Text.trimEnd_append_cons hc [] r
  have hline := fieldLine?_append (r := Text.trimEnd r) f.isWordText_name f.isBlankText_gap
    f.gap_ne_nil hc
  have hattribute := f.attribute?_attributes
  rw [hend] at hattribute
  rw [hint?, trim_stripComment, hend, hline]
  cases ha : f.annotation? with
  | none => simp [hattribute, ha]
  | some a => simp [hattribute, ha]

/-- Without its comment a field starts with its name. -/
theorem head?_trim_stripComment :
    (Text.trim (stripComment f.text)).head?.any Text.isWord = true := by
  obtain ⟨w, ws, hw⟩ := List.exists_cons_of_ne_nil f.isWordText_name.1
  rw [trim_stripComment, hw, List.cons_append, List.head?_cons]
  exact f.isWordText_name.2 w (hw ▸ List.mem_cons_self)

end Field

/-! ## Lines -/

/-- A line of a block. -/
inductive Line
  | blank (s : Text) (h : Text.isBlankText s = true)
  | comment (indent s : Text) (h : Text.isBlankText indent = true)
  | setting (indent s : Text) (h : Text.isBlankText indent = true)
  | field (f : Field)

namespace Line

def text : Line → Text
  | blank s _ => s
  | comment indent s _ => indent ++ ("//" ++ s)
  | setting indent s _ => indent ++ ("@@" ++ s)
  | field f => f.text

/-- The column type that the line is written with, and the name of its field. -/
def annotated? : Line → Option (Text × Annotation)
  | field f => f.annotation?.map fun a => (f.name, a)
  | _ => none

/-- The blanks at the start of a line do not matter. -/
theorem trim_stripComment_append {indent : Text} (h : Text.isBlankText indent = true) (s : Text) :
    Text.trim (stripComment (indent ++ s)) = Text.trim (stripComment s) := by
  have hbare : ∀ c ∈ indent, isBare c = true := fun c hc =>
    isBare_of_isBlank (List.all_eq_true.1 h c hc)
  have hlast : indent.getLast? ≠ some (.char '\\') := fun hl =>
    absurd (List.all_eq_true.1 h _ (List.mem_of_getLast? hl)) (by decide)
  rw [stripComment, code_append hbare (.inr hlast), Text.trim_append h, ← stripComment]

/-- Of a line that is no field the scan sees nothing or an attribute of the block. -/
theorem eq_at_of_ne_field {l : Line} (h : ∀ f, l ≠ field f) :
    ∀ c ∈ (Text.trim (stripComment l.text)).head?, c = .char '@' := by
  cases l with
  | blank s hs =>
    have htrim := trim_stripComment_append hs []
    rw [List.append_nil] at htrim
    rw [text, htrim]
    rintro c ⟨⟩
  | comment indent s hi =>
    rw [text, trim_stripComment_append hi]
    rintro c ⟨⟩
  | setting indent s hi =>
    have hcode : stripComment ("@@" ++ s) = .char '@' :: .char '@' :: stripComment s :=
      code_append (s := ("@@" : Text)) (by decide) (.inr (by decide))
    have hend : Text.trimEnd (.char '@' :: .char '@' :: stripComment s)
        = .char '@' :: Text.trimEnd (.char '@' :: stripComment s) :=
      Text.trimEnd_append_cons (by decide) [] _
    rw [text, trim_stripComment_append hi, hcode, Text.trim,
      Text.trimStart_cons_of_not_isBlank (by decide), hend]
    rintro c ⟨⟩
    rfl
  | field f => exact absurd rfl (h f)

theorem annotated?_eq_none {l : Line} (h : ∀ f, l ≠ field f) : l.annotated? = none := by
  cases l with
  | field f => exact absurd rfl (h f)
  | _ => rfl

/-- A line whose first character is not one of a word has no name. -/
theorem fieldLine?_eq_none {s : Text} (h : ∀ c ∈ s.head?, Text.isWord c = false) :
    fieldLine? s = none := by
  cases s with
  | nil => rfl
  | cons c s => simp [fieldLine?, h c rfl]

/-- From each line the scan takes the column type that it is written with. -/
theorem hint?_text (l : Line) : hint? l.text = l.annotated?.map fun x => (x.1, x.2.text) := by
  by_cases hf : ∃ f, l = field f
  · obtain ⟨f, rfl⟩ := hf
    rw [annotated?, Option.map_map]
    exact f.hint?_text
  · have hf := not_exists.1 hf
    have hword : ∀ c ∈ (Text.trim (stripComment l.text)).head?, Text.isWord c = false :=
      fun c hc => by rw [eq_at_of_ne_field hf c hc]; decide
    rw [hint?, fieldLine?_eq_none hword, annotated?_eq_none hf]
    rfl

/-- No line of a block ends it. -/
theorem closesBlock_text (l : Line) : closesBlock l.text = false := by
  have hbrace : ∀ c ∈ (Text.trim (stripComment l.text)).head?, c ≠ .char '}' := by
    by_cases hf : ∃ f, l = field f
    · obtain ⟨f, rfl⟩ := hf
      rintro c hc rfl
      have hword := f.head?_trim_stripComment
      rw [show (Text.trim (stripComment f.text)).head? = _ from hc] at hword
      exact absurd hword (by decide)
    · intro c hc
      rw [eq_at_of_ne_field (not_exists.1 hf) c hc]
      decide
  rw [closesBlock, beq_eq_false_iff_ne]
  exact fun h => hbrace _ h rfl

end Line

end ValidatorGen.Schema
