import ValidatorGen.Native.Source
import ValidatorGen.Native.Tag
import ValidatorGen.Proofs.Text

/-!
# Column types as they are written

A column type is a word and, between brackets, parameters without quotes, slashes and closing
brackets.

* `columnType?_text` — the scan reads it as it is written;
* `ofText?_text` — it is split into the tag and the parameters that it is written with.
-/

namespace ValidatorGen.Schema

open Native

def IsWordText (s : Text) : Prop := s ≠ [] ∧ ∀ c ∈ s, Text.isWord c = true

instance (s : Text) : Decidable (IsWordText s) :=
  inferInstanceAs (Decidable (s ≠ [] ∧ ∀ c ∈ s, Text.isWord c = true))

/-- Trimming takes the blanks in front of a word. -/
theorem trimStart_append_isWordText {b w : Text} (hb : Text.isBlankText b = true)
    (hw : IsWordText w) (s : Text) : Text.trimStart (b ++ (w ++ s)) = w ++ s := by
  obtain ⟨c, r, rfl⟩ := List.exists_cons_of_ne_nil hw.1
  rw [Text.trimStart_append hb, List.cons_append]
  exact Text.trimStart_cons_of_not_isBlank
    (Text.isBlank_eq_false_of_isWord (hw.2 c List.mem_cons_self))

/-- A character that is neither a quote nor a slash. -/
def isBare (c : CodePoint) : Bool := !(c.is '"' || c.is '/')

theorem isBare_of_class {p : CodePoint → Bool} {c : CodePoint} (h : p c = true)
    (hquote : p (.char '"') = false) (hslash : p (.char '/') = false) : isBare c = true := by
  by_contra hc
  simp only [isBare, CodePoint.is, Bool.not_eq_true, Bool.not_eq_false', Bool.or_eq_true,
    decide_eq_true_eq] at hc
  rcases hc with rfl | rfl
  · exact Bool.noConfusion (hquote.symm.trans h)
  · exact Bool.noConfusion (hslash.symm.trans h)

theorem isBare_of_isWord {c : CodePoint} (h : Text.isWord c = true) : isBare c = true :=
  isBare_of_class h (by decide) (by decide)

theorem isBare_of_isBlank {c : CodePoint} (h : Text.isBlank c = true) : isBare c = true :=
  isBare_of_class h (by decide) (by decide)

/-! ## Column types -/

/-- A column type: a tag and, between brackets, its parameters. -/
structure Annotation where
  tag : Text
  params? : Option (List Text) := none
  isWordText_tag : IsWordText tag
  isBare_params : ∀ ps ∈ params?, ∀ p ∈ ps, p.all isBare = true
  closed_params : ∀ ps ∈ params?, ∀ p ∈ ps, .char ')' ∉ p

namespace Annotation

/-- What stands between the brackets. -/
def list (ps : List Text) : Text := Text.join ", " ps

def brackets (a : Annotation) : Text :=
  match a.params? with
  | none => []
  | some ps => .char '(' :: (list ps ++ [.char ')'])

def text (a : Annotation) : Text := a.tag ++ a.brackets

theorem text_of_none {a : Annotation} (h : a.params? = none) : a.text = a.tag := by
  rw [text, brackets, h, List.append_nil]

theorem brackets_of_some {a : Annotation} {ps : List Text} (h : a.params? = some ps) :
    a.brackets = .char '(' :: (list ps ++ [.char ')']) := by
  rw [brackets, h]

theorem mem_list {ps : List Text} {c : CodePoint} (h : c ∈ list ps) :
    (∃ p ∈ ps, c ∈ p) ∨ c = ',' ∨ c = ' ' := by
  cases ps with
  | nil => simp [list, Text.join] at h
  | cons p ps =>
    rw [list, Text.join_cons, List.mem_append] at h
    rcases h with h | h
    · exact .inl ⟨p, List.mem_cons_self, h⟩
    · obtain ⟨q, hq, h⟩ := List.mem_flatMap.1 h
      rcases List.mem_append.1 h with h | h
      · exact .inr (by simpa [Text.ofString, Text.ofChars] using h)
      · exact .inl ⟨q, List.mem_cons_of_mem p hq, h⟩

variable (a : Annotation)

theorem not_mem_list {ps : List Text} (h : ps ∈ a.params?) : .char ')' ∉ list ps := by
  intro hc
  rcases mem_list hc with ⟨p, hp, hc⟩ | hc | hc
  · exact a.closed_params ps h p hp hc
  · exact absurd hc (by decide)
  · exact absurd hc (by decide)

theorem isBare_of_mem_text {c : CodePoint} (h : c ∈ a.text) : isBare c = true := by
  have htag : ∀ c ∈ a.tag, isBare c = true := fun c hc => isBare_of_isWord (a.isWordText_tag.2 c hc)
  cases hps : a.params? with
  | none => exact htag c (text_of_none hps ▸ h)
  | some ps =>
    rw [text, brackets_of_some hps, List.mem_append, List.mem_cons, List.mem_append,
      List.mem_singleton] at h
    rcases h with h | rfl | h | rfl
    · exact htag c h
    · decide
    · rcases mem_list h with ⟨p, hp, hc⟩ | rfl | rfl
      · exact List.all_eq_true.1 (a.isBare_params ps hps p hp) c hc
      · decide
      · decide
    · decide

/-- A column type ends in a character that is not blank. -/
theorem exists_text_eq : ∃ s c, a.text = s ++ [c] ∧ Text.isBlank c = false := by
  cases hps : a.params? with
  | none =>
    obtain ⟨hne, hword⟩ := a.isWordText_tag
    refine ⟨a.tag.dropLast, a.tag.getLast hne, ?_, ?_⟩
    · rw [text_of_none hps, List.dropLast_concat_getLast]
    · exact Text.isBlank_eq_false_of_isWord (hword _ (List.getLast_mem hne))
  | some ps =>
    refine ⟨a.tag ++ .char '(' :: list ps, .char ')', ?_, by decide⟩
    rw [text, brackets_of_some hps, List.append_assoc, List.cons_append]

/-- The tag goes up to the bracket. -/
theorem brackets_head {c : CodePoint} (h : c ∈ a.brackets.head?) : Text.isWord c = false := by
  unfold brackets at h
  split at h
  · exact absurd h (by simp)
  · cases Option.some.inj h
    decide

theorem takeWhile_text : a.text.takeWhile Text.isWord = a.tag :=
  takeWhile_append_stop a.isWordText_tag.2 fun _ => a.brackets_head

theorem dropWhile_text : a.text.dropWhile Text.isWord = a.brackets :=
  dropWhile_append_stop a.isWordText_tag.2 fun _ => a.brackets_head

/-- The list goes up to the closing bracket. -/
theorem takeWhile_list {ps : List Text} (h : a.params? = some ps) :
    (list ps ++ [CodePoint.char ')']).takeWhile (!·.is ')') = list ps := by
  refine takeWhile_append_stop (fun c hc => ?_) (by rintro c ⟨⟩; decide)
  have hne : c ≠ .char ')' := fun e => a.not_mem_list h (e ▸ hc)
  simp [CodePoint.is, hne]

theorem contains_list (ps : List Text) :
    (list ps ++ [CodePoint.char ')']).contains (.char ')') = true := by
  simp

/-- The scan reads a column type as it is written. -/
theorem columnType?_text : columnType? a.text = some a.text := by
  have htag : a.tag.isEmpty = false := List.isEmpty_eq_false_iff.2 a.isWordText_tag.1
  simp only [columnType?, takeWhile_text, dropWhile_text, htag, Bool.false_eq_true, if_false]
  cases hps : a.params? with
  | none => rw [brackets, hps, text_of_none hps]
  | some ps =>
    rw [brackets_of_some hps]
    simp only [contains_list, if_true, a.takeWhile_list hps]
    rw [text, brackets_of_some hps, List.append_assoc, List.append_assoc]
    rfl

/-! ### Tags and parameters -/

/-- A parameter that a list gives back: not empty, trimmed, and without a comma. -/
def IsParam (p : Text) : Prop := p ≠ [] ∧ Text.trim p = p ∧ .char ',' ∉ p

instance (p : Text) : Decidable (IsParam p) :=
  inferInstanceAs (Decidable (p ≠ [] ∧ Text.trim p = p ∧ .char ',' ∉ p))

/-- The column type can be split again. -/
structure IsRegular (a : Annotation) : Prop where
  tag : a.tag.head?.any CodePoint.isAlpha = true
  params : ∀ ps ∈ a.params?, ∀ p ∈ ps, IsParam p

/-- The pieces of a list, where all but the first keep a blank in front. -/
theorem splitOn_list {p : Text} {ps : List Text} (h : ∀ q ∈ p :: ps, .char ',' ∉ q) :
    Text.splitOn ',' (list (p :: ps)) = p :: ps.map (.char ' ' :: ·) := by
  induction ps generalizing p with
  | nil =>
    rw [list, Text.join, List.intercalate_singleton]
    exact Text.splitOn_of_not_mem (h p List.mem_cons_self)
  | cons q ps ih =>
    obtain ⟨hp, hps⟩ := List.forall_mem_cons.1 h
    have hrest : Text.splitOn ',' (.char ' ' :: list (q :: ps))
        = (.char ' ' :: q) :: ps.map (.char ' ' :: ·) :=
      Text.splitOn_append (l := [.char ' ']) (by decide) (ih hps)
    have hcomma : Text.splitOn ',' (.char ',' :: .char ' ' :: list (q :: ps))
        = [] :: (q :: ps).map (.char ' ' :: ·) := by
      rw [Text.splitOn, if_pos rfl, hrest]
      rfl
    have happ := Text.splitOn_append hp hcomma
    rw [List.append_nil] at happ
    rw [list, Text.join_cons_cons]
    exact happ

/-- The blank in front of a parameter is trimmed away. -/
theorem trim_cons_of_isParam {p : Text} (h : IsParam p) : Text.trim (.char ' ' :: p) = p := by
  rw [← List.singleton_append, Text.trim_append (by decide), h.2.1]

theorem not_isBlankText_of_isParam {p : Text} (h : IsParam p) : ¬ Text.isBlankText p = true := by
  intro hb
  refine h.1 ?_
  rw [← h.2.1, Text.trim, Text.trimStart_of_isBlankText hb, Text.trimEnd_nil]

theorem subset_list {p : Text} (ps : List Text) {c : CodePoint} (h : c ∈ p) :
    c ∈ list (p :: ps) := by
  rw [list, Text.join_cons]
  exact List.mem_append_left _ h

theorem paramsOf_list {ps : List Text} (h : ∀ p ∈ ps, IsParam p) : paramsOf (list ps) = ps := by
  cases ps with
  | nil => rfl
  | cons p ps =>
    obtain ⟨hp, hps⟩ := List.forall_mem_cons.1 h
    have hblank : ¬ (list (p :: ps)).all Text.isBlank = true := fun hall =>
      not_isBlankText_of_isParam hp
        (List.all_eq_true.2 fun c hc => List.all_eq_true.1 hall c (subset_list ps hc))
    rw [paramsOf, if_neg hblank, splitOn_list fun q hq => (h q hq).2.2, List.map_cons, hp.2.1,
      List.map_map]
    congr 1
    exact (List.map_congr_left fun q hq => trim_cons_of_isParam (hps q hq)).trans (List.map_id ps)

theorem bracketed?_brackets : bracketed? a.brackets = a.params?.map list := by
  cases hps : a.params? with
  | none => rw [brackets, hps]; rfl
  | some ps =>
    rw [brackets_of_some hps, bracketed?, Text.trimStart_cons_of_not_isBlank (by decide)]
    simp only [contains_list, if_true, a.takeWhile_list hps]
    rfl

/-- A column type is split into the tag and the parameters that it is written with. -/
theorem ofText?_text (h : a.IsRegular) : Tag.ofText? a.text = some ⟨a.tag, a.params?.getD []⟩ := by
  obtain ⟨c, t, hct⟩ := List.exists_cons_of_ne_nil a.isWordText_tag.1
  have htext : a.text = c :: (t ++ a.brackets) := by rw [text, hct, List.cons_append]
  have hblank := Text.isBlank_eq_false_of_isWord (a.isWordText_tag.2 c (hct ▸ List.mem_cons_self))
  have halpha : c.isAlpha = true := by simpa [hct] using h.tag
  have hparams : ((a.params?.map list).map paramsOf).getD [] = a.params?.getD [] := by
    cases hps : a.params? with
    | none => rfl
    | some ps => exact paramsOf_list (h.params ps hps)
  have hstart : Text.trimStart a.text = a.text := by
    rw [htext, Text.trimStart_cons_of_not_isBlank hblank]
  simp only [Tag.ofText?, hstart, takeWhile_text, dropWhile_text, bracketed?_brackets, hparams]
  rw [htext]
  exact if_pos halpha

end Annotation

end ValidatorGen.Schema
