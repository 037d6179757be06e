import ValidatorGen.Proofs.Compile.Base
import ValidatorGen.Proofs.Identifier
import ValidatorGen.Proofs.Text

/-!
# What a column type decides

A column type refines the type of a field by its tag and its parameters.  The tag is read as a
whole identifier and compared in lower case, so a tag that begins or ends like another one is not
taken for it.

* `Tag.ofText?_eq_some_iff` — which tag and which parameters a text names;
* `draft_eq_iff` — the column types that change anything are those that refine the field's own type;
* `compileField_column` — so two texts that name the same give one validator, and a text that names
  nothing for this type gives the one that the field has without a column type.
-/

namespace ValidatorGen

/-- The tags that can refine a scalar. -/
def Scalar.refiningTags : Scalar → List Text
  | .string => ["uuid", "citext", "varchar", "char", "nvarchar", "nchar", "varbinary", "binary",
      "objectid"]
  | .int => ["smallint", "tinyint", "unsignedint", "unsignedsmallint", "unsignedtinyint"]
  | .decimal => ["decimal", "numeric"]
  | .dateTime => ["date", "time", "timetz"]
  | .bigInt | .float | .boolean | .bytes | .json => []

/-- The scalar that a field holds. -/
def Field.scalar? (f : Field) : Option Scalar :=
  match f.kind with
  | .scalar => Scalar.ofName? f.type
  | .enum | .relation => none

/-- The tags that can refine a field: those of its scalar. -/
def Field.refiningTags (f : Field) : List Text := (f.scalar?.map Scalar.refiningTags).getD []

/-! ## Reading a tag -/

namespace Native

theorem isWord_of_isAlpha {c : CodePoint} (h : c.isAlpha = true) : Text.isWord c = true := by
  have hascii : c.toNat < 0x80 :=
    Check.toNat_lt_of_startsIdentifier (by simp [Check.startsIdentifier, h])
  unfold Text.isWord Text.isAlphanumeric
  rw [if_pos hascii, CodePoint.isAlphanum, h]
  rfl

/-- A tag is a whole identifier: it starts with a letter of ASCII, and goes on as far as the word
does. -/
theorem Tag.ofText?_eq_some_iff {s : Text} {t : Tag} :
    Tag.ofText? s = some t ↔
      ∃ blanks rest, s = blanks ++ (t.name ++ rest) ∧ Text.isBlankText blanks = true ∧
        t.name.head?.any CodePoint.isAlpha = true ∧ (∀ c ∈ t.name, Text.isWord c = true) ∧
        (∀ c ∈ rest.head?, Text.isWord c = false) ∧
        t.params = ((bracketed? rest).map paramsOf).getD [] := by
  unfold Tag.ofText?
  dsimp only
  constructor
  · intro h
    split at h
    · rename_i c r hs
      split_ifs at h with hc
      cases h
      refine ⟨s.takeWhile Text.isBlank, (Text.trimStart s).dropWhile Text.isWord, ?_,
        List.all_takeWhile, ?_, List.all_eq_true.1 List.all_takeWhile, fun d hd => ?_, rfl⟩
      · rw [List.takeWhile_append_dropWhile]
        exact List.takeWhile_append_dropWhile.symm
      · rw [hs, List.takeWhile_cons_of_pos (isWord_of_isAlpha hc)]
        exact hc
      · have hstop := List.head?_dropWhile_not Text.isWord (Text.trimStart s)
        rw [hd] at hstop
        exact hstop
    · exact absurd h (by simp)
  · rintro ⟨blanks, rest, rfl, hblanks, halpha, hword, hrest, hparams⟩
    obtain ⟨name, params⟩ := t
    cases name with
    | nil => exact absurd halpha (by simp)
    | cons c name =>
      have hblank := Text.isBlank_eq_false_of_isWord (hword c List.mem_cons_self)
      have hstart : Text.trimStart (blanks ++ (c :: name ++ rest)) = c :: name ++ rest := by
        rw [Text.trimStart_append hblanks, List.cons_append,
          Text.trimStart_cons_of_not_isBlank hblank]
      rw [hstart, takeWhile_append_stop hword hrest, dropWhile_append_stop hword hrest, ← hparams]
      exact if_pos halpha

end Native

namespace Compile

/-! ## Column types that refine a type -/

/-- The column type says more of a value of this type: its tag is one of those that do, with the
parameters that the tag needs. -/
def Refines (s : Scalar) (t : Native.Tag) : Prop :=
  t.name ∈ s.refiningTags ∧
    (t.name ∈ maxLengthTags → (t.params.head?.bind fun p => Text.whole? p).isSome = true) ∧
    (t.name ∈ decimalTags → (decimalToken? t).isSome = true)

section

variable (z : Text) {t : Native.Tag}

theorem refines_of_mem {s : Scalar} (h : t.name ∈ s.refiningTags)
    (hlength : t.name ∉ maxLengthTags) (hdecimal : t.name ∉ decimalTags) : Refines s t :=
  ⟨h, fun hl => absurd hl hlength, fun hd => absurd hd hdecimal⟩

theorem draftString_maxLengthTags (h : t.name ∈ maxLengthTags) :
    draftString z (some t) = ⟨z ++ ".string()",
      ((t.params.head?.bind fun p => Text.whole? p).map (bound "max")).toList, false⟩ := by
  obtain ⟨name, params⟩ := t
  simp only [maxLengthTags, List.mem_cons, List.not_mem_nil, or_false] at h
  rcases h with rfl | rfl | rfl | rfl <;> rfl

/-- The tags that say what a text looks like. -/
def formTags : List Text := ["uuid", "citext", "objectid"]

theorem special_draftString (h : t.name ∈ formTags) :
    (draftString z (some t)).special = true := by
  obtain ⟨name, params⟩ := t
  simp only [formTags, List.mem_cons, List.not_mem_nil, or_false] at h
  rcases h with rfl | rfl | rfl <;> rfl

theorem draftString_of_not_mem (h : t.name ∉ Scalar.string.refiningTags) :
    draftString z (some t) = draftString z none := by
  have hne : ∀ n ∈ Scalar.string.refiningTags, t.name ≠ n := fun n hn =>
    (ne_of_mem_of_not_mem hn h).symm
  have hlength : t.name ∉ maxLengthTags := fun hm =>
    h ((by decide : maxLengthTags ⊆ Scalar.string.refiningTags) hm)
  have hopaque : t.name ∉ opaqueTags := fun hm =>
    h ((by decide : opaqueTags ⊆ Scalar.string.refiningTags) hm)
  unfold draftString
  dsimp only
  rw [if_neg (hne _ (by decide)), if_neg (hne _ (by decide)), if_neg hlength, if_neg hopaque,
    if_neg (hne _ (by decide))]

theorem draftString_eq_iff :
    draftString z (some t) = draftString z none ↔ ¬ Refines .string t := by
  by_cases hmem : t.name ∈ Scalar.string.refiningTags
  · have hdecimal : t.name ∉ decimalTags :=
      (by decide : ∀ n ∈ Scalar.string.refiningTags, n ∉ decimalTags) _ hmem
    have hcases := (by decide : ∀ n ∈ Scalar.string.refiningTags,
      n ∈ maxLengthTags ∨ n ∉ maxLengthTags ∧ (n ∈ formTags ∨ n ∈ opaqueTags)) _ hmem
    obtain hl | ⟨hlength, hf | ho⟩ := hcases
    · rw [draftString_maxLengthTags z hl]
      simp [Refines, draftString, hmem, hl, hdecimal]
    · refine iff_of_false (fun e => ?_) (not_not.2 (refines_of_mem hmem hlength hdecimal))
      have hspecial := special_draftString z hf
      rw [e] at hspecial
      exact Bool.noConfusion hspecial
    · refine iff_of_false (fun e => ?_) (not_not.2 (refines_of_mem hmem hlength hdecimal))
      rw [draftString_opaqueTags z ho] at e
      have hsuffix : (".string()" : Text) <:+ unknown := ⟨z, (congrArg Draft.base e).symm⟩
      exact absurd hsuffix (by decide)
  · exact iff_of_true (draftString_of_not_mem z hmem) fun h => hmem h.1

theorem draftInt_eq_iff : draftInt z (some t) = draftInt z none ↔ ¬ Refines .int t := by
  by_cases hmem : t.name ∈ Scalar.int.refiningTags
  · obtain ⟨hlow, hlength, hdecimal⟩ := (by decide : ∀ n ∈ Scalar.int.refiningTags,
      (intBounds n).1 ≠ none ∧ n ∉ maxLengthTags ∧ n ∉ decimalTags) _ hmem
    refine iff_of_false (fun e => ?_) (not_not.2 (refines_of_mem hmem hlength hdecimal))
    obtain ⟨low, hlow⟩ := Option.ne_none_iff_exists'.1 hlow
    have htokens := congrArg Draft.tokens e
    simp [draftInt, hlow] at htokens
  · refine iff_of_true ?_ fun h => hmem h.1
    have hne : ∀ n ∈ Scalar.int.refiningTags, t.name ≠ n := fun n hn =>
      (ne_of_mem_of_not_mem hn hmem).symm
    have hbounds : intBounds t.name = (none, none) := by
      unfold intBounds
      rw [if_neg (hne _ (by decide)), if_neg (hne _ (by decide)), if_neg (hne _ (by decide)),
        if_neg (hne _ (by decide)), if_neg (hne _ (by decide))]
    unfold draftInt
    rw [Option.map_some, hbounds]
    rfl

theorem draftDecimal_eq_iff :
    draftDecimal z (some t) = draftDecimal z none ↔ ¬ Refines .decimal t := by
  have htags : Scalar.decimal.refiningTags = decimalTags := rfl
  by_cases hmem : t.name ∈ decimalTags
  · have hlength : t.name ∉ maxLengthTags :=
      (by decide : ∀ n ∈ decimalTags, n ∉ maxLengthTags) _ hmem
    simp [draftDecimal, Refines, htags, hmem, hlength]
  · refine iff_of_true ?_ fun h => hmem h.1
    unfold draftDecimal decimalToken?
    rw [Option.bind_some, if_neg hmem]
    rfl

theorem draftDateTime_eq_iff :
    draftDateTime z (some t) = draftDateTime z none ↔ ¬ Refines .dateTime t := by
  by_cases hmem : t.name ∈ Scalar.dateTime.refiningTags
  · obtain ⟨hpattern, hlength, hdecimal⟩ := (by decide : ∀ n ∈ Scalar.dateTime.refiningTags,
      dayOrTimePattern? n ≠ none ∧ n ∉ maxLengthTags ∧ n ∉ decimalTags) _ hmem
    refine iff_of_false (fun e => ?_) (not_not.2 (refines_of_mem hmem hlength hdecimal))
    obtain ⟨p, hp⟩ := Option.ne_none_iff_exists'.1 hpattern
    have hbase := congrArg Draft.base e
    simp only [draftDateTime, Option.bind_some, hp, Option.bind_none, List.append_assoc] at hbase
    have hcons := List.append_cancel_left hbase
    exact absurd (List.cons.inj (List.cons.inj hcons).2).1 (by decide)
  · refine iff_of_true ?_ fun h => hmem h.1
    have hne : ∀ n ∈ Scalar.dateTime.refiningTags, t.name ≠ n := fun n hn =>
      (ne_of_mem_of_not_mem hn hmem).symm
    have hpattern : dayOrTimePattern? t.name = none := by
      unfold dayOrTimePattern?
      rw [if_neg (hne _ (by decide)), if_neg (hne _ (by decide)), if_neg (hne _ (by decide))]
    unfold draftDateTime
    rw [Option.bind_some, hpattern]
    rfl

theorem not_refines_of_refiningTags {s : Scalar} (h : s.refiningTags = []) : ¬ Refines s t := by
  rintro ⟨hmem, -, -⟩
  rw [h] at hmem
  exact List.not_mem_nil hmem

end

/-! ## Column types that refine a field -/

theorem addMinLength_injective (c : Config) (required : Bool) :
    Function.Injective (addMinLength c required) := by
  rintro ⟨base, tokens, special⟩ ⟨base', tokens', special'⟩ h
  have hspecial : special = special' := by
    have hs := congrArg Draft.special h
    unfold addMinLength at hs
    split_ifs at hs <;> exact hs
  subst hspecial
  unfold addMinLength at h
  dsimp only at h
  split_ifs at h
  · obtain ⟨hbase, htokens, -⟩ := Draft.mk.inj h
    rw [hbase, List.append_cancel_right htokens]
  · exact h

theorem draftScalar_eq_iff {f : Field} {native? : Option Text} {c : Config} :
    draftScalar f native? c = draftScalar f none c ↔
      ∀ s ∈ Scalar.ofName? f.type, ∀ t ∈ columnTag? native?, ¬ Refines s t := by
  have hnone : columnTag? none = none := rfl
  unfold draftScalar
  rw [hnone]
  cases hs : Scalar.ofName? f.type with
  | none => simp
  | some s =>
    cases columnTag? native? with
    | none => simp
    | some t =>
      simp only [Option.mem_some_iff, forall_eq']
      cases s with
      | string => exact (addMinLength_injective c f.isRequired).eq_iff.trans (draftString_eq_iff _)
      | int => exact draftInt_eq_iff _
      | decimal => exact draftDecimal_eq_iff _
      | dateTime => exact draftDateTime_eq_iff _
      | bigInt | float | boolean | bytes | json =>
        exact iff_of_true rfl (not_refines_of_refiningTags rfl)

/-- A column type changes what a field is by itself just if it refines the scalar of the field. -/
theorem draft_eq_iff {f : Field} {native? : Option Text} {c : Config} {related : Text → Text} :
    draft f native? c related = draft f none c related ↔
      ∀ s ∈ f.scalar?, ∀ t ∈ columnTag? native?, ¬ Refines s t := by
  unfold draft Field.scalar?
  cases f.kind with
  | scalar => exact draftScalar_eq_iff
  | enum | relation => simp

/-- Of a column type, nothing but its tag in lower case and its parameters counts. -/
theorem draft_congr {f : Field} {native? native'? : Option Text} {c : Config}
    {related : Text → Text} (h : columnTag? native? = columnTag? native'?) :
    draft f native? c related = draft f native'? c related := by
  unfold draft draftScalar
  rw [h]

theorem columnTag?_some {s : Text} {t : Native.Tag} (h : Native.Tag.ofText? s = some t) :
    columnTag? (some s) = some ⟨Text.lower t.name, t.params⟩ := by
  unfold columnTag?
  rw [Option.bind_some, h]
  rfl

/-- Column types are matched by whole tags, whatever their case: two texts of one tag and one list
of parameters are the same column type, and a text whose tag is not one of those that refine the
scalar of the field is none. -/
theorem compileField_column (f : Field) (ds : List Directive) (default? : Option Literal)
    (c : Config) (related : Text → Text) :
    (∀ s s' t t', Native.Tag.ofText? s = some t → Native.Tag.ofText? s' = some t' →
      Text.lower t.name = Text.lower t'.name → t.params = t'.params →
      compileField f (some s) ds default? c related
        = compileField f (some s') ds default? c related) ∧
    ∀ s, (∀ t, Native.Tag.ofText? s = some t → Text.lower t.name ∉ f.refiningTags) →
      compileField f (some s) ds default? c related
        = compileField f none ds default? c related := by
  constructor
  · intro s s' t t' ht ht' hname hparams
    have hcolumn : columnTag? (some s) = columnTag? (some s') := by
      rw [columnTag?_some ht, columnTag?_some ht', hname, hparams]
    unfold compileField
    rw [draft_congr hcolumn]
  · intro s h
    have hdraft : draft f (some s) c related = draft f none c related := by
      refine draft_eq_iff.2 fun x hx t ht hrefines => ?_
      obtain ⟨t, hs, rfl⟩ := Option.map_eq_some_iff.1 ht
      refine h t hs ?_
      unfold Field.refiningTags
      rw [Option.mem_def.1 hx]
      exact hrefines.1
    unfold compileField
    rw [hdraft]

/-- A small number. -/
def rankField : Field := { name := "rank", type := "Int" }

theorem compileField_column_rank :
    compileField rankField (some "TinyInt") [] none {} id
      = compileField rankField (some " tinyint ( ) zerofill") [] none {} id ∧
    compileField rankField (some "TinyInteger") [] none {} id
      = compileField rankField none [] none {} id := by
  have h := compileField_column rankField [] none {} id
  refine ⟨h.1 _ _ ⟨"TinyInt", []⟩ ⟨"tinyint", []⟩ (by decide) (by decide) (by decide) rfl, ?_⟩
  refine h.2 _ fun t ht => ?_
  have htag : Native.Tag.ofText? "TinyInteger" = some ⟨"TinyInteger", []⟩ := by decide
  cases ht.symm.trans htag
  decide

end Compile

end ValidatorGen
