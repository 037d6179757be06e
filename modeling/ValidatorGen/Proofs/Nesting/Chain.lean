import ValidatorGen.Documentation
import ValidatorGen.Proofs.Nesting.Parts

/-!
# Which validators are well-formed

A validator is a well-formed chain if its base is not empty and it is nested.  All that can break
it are the directives: a call is taken for one although a bracket of it is closed by one of another
kind, `custom` may have nothing between its brackets, and a dot between its name and its bracket
shifts what counts as its argument.

* `isWellFormed_compileField_iff` — these are the only ways.
-/

namespace ValidatorGen.Nesting

open Directive Compile

/-- A base, and brackets in order. -/
def IsWellFormed (e : Expression) : Prop := e.base ≠ [] ∧ isNested e.render = true

/-- What the directives bring into the validator of a field is nested: the base that replaces the
field's own one, if there is one, and every modifier. -/
structure AreSound (f : Field) (ds : List Directive) : Prop where
  custom : ∀ e, firstCustom ds = some e → e ≠ [] ∧ isNested e = true
  standalone : firstCustom ds = none → f.hasType .string = true →
    ∀ c, firstStandalone ds = some c → isNested c = true
  modifiers : ∀ c ∈ modifiers ds, isNested c = true

/-! ## The directives of a documentation -/

/-- A directive that stands for a call. -/
def IsOfCall (d : Directive) : Prop :=
  ∃ c dots args x, IsCall c dots args x ∧ d = .ofCall c

theorem isOfCall_of_mem_directives {doc? : Option Text} {d : Directive}
    (h : d ∈ (Documentation.ofText? doc?).directives) : IsOfCall d := by
  cases doc? with
  | none => exact absurd h (by simp [Documentation.ofText?])
  | some text =>
    obtain ⟨line, -, h⟩ := List.mem_flatMap.1 h
    unfold Documentation.lineDirectives at h
    split at h
    · obtain ⟨c, hc, rfl⟩ := List.mem_map.1 h
      obtain ⟨dots, args, x, hcall⟩ := isCall_of_mem_calls hc
      exact ⟨c, dots, args, x, hcall, rfl⟩
    · exact absurd h (by simp)

section

variable {doc? : Option Text}

theorem link_of_mem_modifiers {c : Text}
    (h : c ∈ modifiers (Documentation.ofText? doc?).directives) : Link c := by
  obtain ⟨d, hd, hc⟩ := List.mem_filterMap.1 h
  obtain ⟨c', dots, args, x, hcall, rfl⟩ := isOfCall_of_mem_directives hd
  unfold ofCall at hc
  split_ifs at hc <;> cases hc
  exact hcall.link

theorem link_of_firstStandalone {c : Text}
    (h : firstStandalone (Documentation.ofText? doc?).directives = some c) : Link c := by
  obtain ⟨d, hd, hc⟩ := List.exists_of_findSome?_eq_some h
  obtain ⟨c', dots, args, x, hcall, rfl⟩ := isOfCall_of_mem_directives hd
  unfold ofCall at hc
  split_ifs at hc <;> cases hc
  exact hcall.link

theorem drop_custom (s : Text) : (("custom" : Text) ++ s).drop "custom(".length = s.drop 1 := rfl

/-- A custom schema ends outside literals.  With dots between `custom` and the bracket, that
bracket is part of it and stays open. -/
theorem read_customExpression {c : Call} {dots args : Text} {x : CodePoint}
    (h : IsCall c dots args x) (hn : c.name = "custom") :
    ∃ b bs, read anyKind .start (customExpression c.text) = some ⟨.code b, bs⟩ := by
  obtain ⟨b, hb⟩ := h.args
  suffices hs : ∃ b bs,
      read anyKind .start ((c.text.drop "custom(".length).dropLast) = some ⟨.code b, bs⟩ by
    obtain ⟨b, bs, hs⟩ := hs
    exact ⟨b, bs, read_trim hs⟩
  have ht : c.text = ("custom" : Text) ++ (dots ++ "(" ++ args ++ [x]) := by
    rw [h.text, hn]
    simp only [List.append_assoc]
  rw [ht, drop_custom]
  have hname := h.name
  rw [List.all_append, Bool.and_eq_true] at hname
  cases dots with
  | nil =>
    refine ⟨b, [], ?_⟩
    show read anyKind .start (args ++ [x]).dropLast = _
    rw [List.dropLast_concat, hb]
  | cons d ds =>
    refine ⟨b, ['('], ?_⟩
    show read anyKind .start (ds ++ "(" ++ args ++ [x]).dropLast = _
    rw [List.all_cons, Bool.and_eq_true] at hname
    rw [List.dropLast_concat, Reader.start, read_name hname.2.2, read_args hb, hb]
    rfl

theorem read_firstCustom {e : Text}
    (h : firstCustom (Documentation.ofText? doc?).directives = some e) :
    ∃ b bs, read anyKind .start e = some ⟨.code b, bs⟩ := by
  obtain ⟨d, hd, he⟩ := List.exists_of_findSome?_eq_some h
  obtain ⟨c, dots, args, x, hcall, rfl⟩ := isOfCall_of_mem_directives hd
  unfold ofCall at he
  split_ifs at he with hn <;> cases he
  exact read_customExpression hcall hn

end

/-! ## Expressions -/

section Field

variable {f : Field} {native? doc? : Option Text} {default? : Option Literal} {c : Config}
  {related : Text → Text}

theorem isNestedCall_or_mem_modifiers {ds : List Directive} {t : Text}
    (h : t ∈ tailTokens f ds default?) : IsNestedCall t ∨ t ∈ modifiers ds := by
  obtain rfl | h | h | rfl := of_mem_tailTokens h
  · exact .inl ⟨"array", "", rfl, rfl, rfl⟩
  · exact .inr h
  · exact .inl (isNestedCall_defaultToken? h)
  · exact .inl ⟨"nullish", "", rfl, rfl, rfl⟩

theorem mem_tailTokens_of_mem_modifiers {ds : List Directive} {t : Text} (h : t ∈ modifiers ds) :
    t ∈ tailTokens f ds default? := by
  unfold tailTokens
  exact List.mem_append_left _ (List.mem_append_left _ (List.mem_append_right _ h))

theorem read_standaloneExpression {call : Text} (h : Link call)
    (fits : CodePoint → CodePoint → Bool) :
    read fits .start (standaloneExpression call) = read fits .start call :=
  h.anywhere fits '.'

/-- The base of a validator ends outside literals. -/
theorem read_overrideBase {base : Text} (h : IsNestedBase base) :
    ∃ b bs, read anyKind .start
      (overrideBase f (Documentation.ofText? doc?).directives base) = some ⟨.code b, bs⟩ := by
  have hbase : ∃ b bs, read anyKind .start base = some ⟨.code b, bs⟩ := by
    obtain ⟨b, hb⟩ := isNested_iff.1 h.isNested
    exact ⟨b, [], read_anyKind hb⟩
  unfold overrideBase
  split
  · rename_i e he
    exact read_firstCustom he
  · split
    · rename_i call hcall
      have hl := link_of_firstStandalone hcall
      split_ifs
      · obtain ⟨b, hb⟩ := hl.closes
        rw [read_standaloneExpression hl]
        exact ⟨b, [], hb⟩
      · exact hbase
    · exact hbase

/-- When the base of a validator is nested: it is the field's own, or what replaces it is. -/
theorem overrideBase_ok_iff {base : Text} (h : IsNestedBase base) {ds : List Directive}
    (hds : ds = (Documentation.ofText? doc?).directives) :
    overrideBase f ds base ≠ [] ∧ isNested (overrideBase f ds base) = true ↔
      (∀ e, firstCustom ds = some e → e ≠ [] ∧ isNested e = true) ∧
        (firstCustom ds = none → f.hasType .string = true →
          ∀ c, firstStandalone ds = some c → isNested c = true) := by
  unfold overrideBase
  cases hc : firstCustom ds with
  | some e => simp
  | none =>
    cases hs : firstStandalone ds with
    | none => simp [h.ne_nil, h.isNested]
    | some call =>
      have hl : Link call := link_of_firstStandalone (hds ▸ hs)
      have hn : isNested (standaloneExpression call) = isNested call := by
        unfold isNested
        rw [read_standaloneExpression hl]
      have hne : standaloneExpression call ≠ [] := List.cons_ne_nil _ _
      by_cases ht : f.hasType .string = true
      · simp [ht, hn, hne]
      · simp [ht, h.ne_nil, h.isNested]

end Field

/-- **Which validators are well-formed.**  `related` names the schema of another model by an
identifier. -/
theorem isWellFormed_compileField_iff {f : Field} {related : Text → Text}
    (ht : Check.isIdentifier f.type = true)
    (hr : f.kind = .relation → Check.isIdentifier (related f.type) = true)
    (native? doc? : Option Text) (default? : Option Literal) (c : Config) :
    IsWellFormed
        (compileField f native? (Documentation.ofText? doc?).directives default? c related)
      ↔ AreSound f (Documentation.ofText? doc?).directives := by
  generalize hds : (Documentation.ofText? doc?).directives = ds
  have hb := isNestedBase_draft native? c ht hr
  have hlinks : ∀ t ∈ (compileField f native? ds default? c related).modifiers,
      IsNestedCall t ∨ t ∈ modifiers ds := by
    intro t h
    rcases List.mem_append.1 (Expression.mem_distinct.1 h).1 with h | h
    · exact .inl (isNestedCall_of_isRefinement (isRefinement_of_mem_draft h))
    · exact isNestedCall_or_mem_modifiers h
  have hlink : ∀ t ∈ (compileField f native? ds default? c related).modifiers, Link t := by
    intro t h
    rcases hlinks t h with h | h
    · exact h.link
    · exact link_of_mem_modifiers (hds ▸ h)
  have hmods : (∀ t ∈ (compileField f native? ds default? c related).modifiers, isNested t = true)
      ↔ ∀ t ∈ modifiers ds, isNested t = true := by
    constructor
    · intro h t hm
      by_cases hnil : t = []
      · rw [hnil]
        rfl
      · exact h t (Expression.mem_distinct.2
          ⟨List.mem_append_right _ (mem_tailTokens_of_mem_modifiers hm), hnil⟩)
    · intro h t hm
      rcases hlinks t hm with hm | hm
      · exact hm.isNested
      · exact h t hm
  have hbase : (compileField f native? ds default? c related).base
      = overrideBase f ds (draft f native? c related).base := rfl
  unfold IsWellFormed
  rw [Expression.render_eq, isNested_chain_iff (hbase ▸ hds ▸ read_overrideBase hb) hlink, hmods,
    ← and_assoc, hbase, overrideBase_ok_iff hb hds.symm]
  constructor
  · rintro ⟨⟨h1, h2⟩, h3⟩
    exact ⟨h1, h2, h3⟩
  · rintro ⟨h1, h2, h3⟩
    exact ⟨⟨h1, h2⟩, h3⟩

/-- A bracket inside a literal is no bracket. -/
theorem isWellFormed_compileField_pattern :
    let f : Field := { name := "tag", type := "String" }
    let ds := (Documentation.ofText? (some "@zod.max(64).regex(/^[a-z(]+$/)")).directives
    Check.isIdentifier f.type = true ∧
      (f.kind = .relation → Check.isIdentifier (lowerFirst f.type) = true) ∧
      IsWellFormed (compileField f none ds none {} lowerFirst) := by
  intro f ds
  have ht : Check.isIdentifier f.type = true := by decide
  have hr : f.kind = .relation → Check.isIdentifier (lowerFirst f.type) = true :=
    fun _ => Check.isIdentifier_lowerFirst ht
  have hds : ds = [.modifier "max(64)", .modifier "regex(/^[a-z(]+$/)"] := by decide +kernel
  refine ⟨ht, hr, (isWellFormed_compileField_iff ht hr none _ none {}).2 ?_⟩
  show AreSound f ds
  rw [hds]
  exact ⟨fun e he => (nomatch he), fun _ _ c hc => (nomatch hc), by decide⟩

/-- A bracket closed by one of another kind is taken for a call, and so are `custom` without a
schema and `custom` with a dot behind it. -/
theorem not_isWellFormed_compileField :
    Check.isIdentifier "String" = true ∧
      ∀ doc ∈ (["@zod.max(1]", "@zod.custom()", "@zod.custom.(z.any())"] : List Text),
        ¬ IsWellFormed (compileField { name := "tag", type := "String" } none
          (Documentation.ofText? (some doc)).directives none {} lowerFirst) := by
  refine ⟨by decide, ?_⟩
  unfold IsWellFormed
  decide +kernel

end ValidatorGen.Nesting
