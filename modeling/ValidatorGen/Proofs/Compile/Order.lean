import ValidatorGen.Proofs.Expression
import ValidatorGen.Proofs.Compile.Refinement

/-!
# The order of the modifiers

* `order_modifiers` — a list has `array()`, a default comes behind it, and an optional field has
  `nullish()` at the end, unless the documentation brings it in earlier.
-/

namespace ValidatorGen.Compile

open Expression

section

variable {f : Field} {native? : Option Text} {ds : List Directive} {default? : Option Literal}
  {c : Config} {related : Text → Text}

/-- The modifiers in front of those of the documentation. -/
def leadingTokens (f : Field) (native? : Option Text) (c : Config) (related : Text → Text) :
    List Text :=
  (draft f native? c related).tokens ++ (if f.isList then [array] else [])

/-- The documentation has a `nullish()` of its own, and something new comes behind it. -/
def IsOvertaken (f : Field) (native? : Option Text) (ds : List Directive)
    (default? : Option Literal) (c : Config) (related : Text → Text) : Prop :=
  ∃ s t, Directive.modifiers ds = s ++ nullish :: t ∧
    ∃ x ∈ t ++ (defaultToken? default?).toList,
      x ≠ [] ∧ x ≠ nullish ∧ x ∉ leadingTokens f native? c related ++ s

theorem modifiers_compileField :
    (compileField f native? ds default? c related).modifiers =
      distinct (leadingTokens f native? c related ++ (Directive.modifiers ds
        ++ ((defaultToken? default?).toList
          ++ if !f.isRequired && !f.hasType .json then [nullish] else []))) := by
  simp only [compileField, build, tailTokens, leadingTokens, List.append_assoc]

/-! ## Tokens by their first letter -/

theorem exists_cons_of_defaultToken? {t : Text} (h : defaultToken? default? = some t) :
    ∃ u, t = .char 'd' :: u := by
  obtain ⟨l, -, rfl⟩ := Option.map_eq_some_iff.1 h
  exact ⟨_, rfl⟩

theorem not_mem_leadingTokens {x : CodePoint} {u : Text}
    (hx : x ∉ (['i', 'm', 'p', 'r', 't'] : List CodePoint)) (ha : x ≠ 'a') :
    x :: u ∉ leadingTokens f native? c related := by
  intro h
  rcases List.mem_append.1 h with h | h
  · exact not_mem_draft hx h
  · split_ifs at h
    · exact ha (List.cons.inj (List.mem_singleton.1 h)).1
    · exact absurd h (by simp)

theorem default_not_mem_leadingTokens {t : Text} (h : defaultToken? default? = some t) :
    t ∉ leadingTokens f native? c related := by
  obtain ⟨u, rfl⟩ := exists_cons_of_defaultToken? h
  exact not_mem_leadingTokens (by decide) (by decide)

theorem nullish_not_mem_default : nullish ∉ (defaultToken? default?).toList := by
  intro h
  obtain ⟨u, hu⟩ := exists_cons_of_defaultToken? (Option.mem_toList.1 h)
  exact absurd (List.cons.inj hu).1 (by decide)

theorem nullish_not_mem_leadingTokens : nullish ∉ leadingTokens f native? c related :=
  not_mem_leadingTokens (by decide) (by decide)

/-! ## The three rules -/

/-- The first place of a token is in front of every other one. -/
theorem prefix_of_split {s t s' t' : List Text} {x : Text} (hs : x ∉ s)
    (h : s ++ x :: t = s' ++ x :: t') : s <+: s' := by
  rcases List.append_eq_append_iff.1 h with ⟨as, rfl, -⟩ | ⟨bs, rfl, hb⟩
  · exact List.prefix_append s as
  · cases bs with
    | nil =>
      rw [List.append_nil]
    | cons b bs =>
      refine absurd (List.mem_append_right _ ?_) hs
      rw [(List.cons.inj hb).1]
      exact List.mem_cons_self

theorem array_mem_leadingTokens (h : f.isList = true) :
    array ∈ leadingTokens f native? c related := by
  unfold leadingTokens
  rw [if_pos h]
  exact List.mem_append_right _ (List.mem_singleton_self _)

theorem array_mem_modifiers (h : f.isList = true) :
    array ∈ (compileField f native? ds default? c related).modifiers := by
  rw [modifiers_compileField]
  exact mem_distinct.2
    ⟨List.mem_append_left _ (array_mem_leadingTokens h), List.cons_ne_nil _ _⟩

theorem default_mem_modifiers {t : Text} (h : defaultToken? default? = some t) :
    t ∈ (compileField f native? ds default? c related).modifiers := by
  obtain ⟨u, rfl⟩ := exists_cons_of_defaultToken? h
  rw [modifiers_compileField, h]
  refine mem_distinct.2 ⟨?_, List.cons_ne_nil _ _⟩
  exact List.mem_append_right _ (List.mem_append_right _ (List.mem_cons_self))

theorem array_before_default {t : Text} (hl : f.isList = true)
    (h : defaultToken? default? = some t) :
    [array, t].Sublist (compileField f native? ds default? c related).modifiers := by
  have ht : t ∉ leadingTokens f native? c related := default_not_mem_leadingTokens h
  obtain ⟨u, rfl⟩ := exists_cons_of_defaultToken? h
  rw [modifiers_compileField, h]
  refine sublist_distinct (array_mem_leadingTokens hl) ?_ ht (List.cons_ne_nil _ _)
    (List.cons_ne_nil _ _)
  exact List.mem_append_right _ List.mem_cons_self

/-- Only the first `nullish()` of the documentation counts. -/
theorem isOvertaken_iff {s t : List Text} (hst : Directive.modifiers ds = s ++ nullish :: t)
    (hs : nullish ∉ s) :
    IsOvertaken f native? ds default? c related ↔
      ∃ x ∈ t ++ (defaultToken? default?).toList,
        x ≠ [] ∧ x ≠ nullish ∧ x ∉ leadingTokens f native? c related ++ s := by
  constructor
  · rintro ⟨s', t', hst', x, hx, hx0, hxn, hxs'⟩
    have hxs : x ∉ leadingTokens f native? c related ++ s := fun h =>
      hxs' (((List.prefix_append_right_inj _).2
        (prefix_of_split hs (hst.symm.trans hst'))).subset h)
    refine ⟨x, ?_, hx0, hxn, hxs⟩
    rcases List.mem_append.1 hx with hx | hx
    · have hxm : x ∈ Directive.modifiers ds :=
        hst' ▸ List.mem_append_right _ (List.mem_cons_of_mem _ hx)
      rw [hst] at hxm
      rcases List.mem_append.1 hxm with hxm | hxm
      · exact absurd (List.mem_append_right _ hxm) hxs
      · exact List.mem_append_left _ ((List.mem_cons.1 hxm).resolve_left hxn)
    · exact List.mem_append_right _ hx
  · rintro ⟨x, hx⟩
    exact ⟨s, t, hst, x, hx⟩

theorem getLast?_modifiers (hr : f.isRequired = false) (hj : f.hasType .json = false) :
    (compileField f native? ds default? c related).modifiers.getLast? = some nullish ↔
      ¬ IsOvertaken f native? ds default? c related := by
  have hlead : nullish ∉ leadingTokens f native? c related := nullish_not_mem_leadingTokens
  have hnil : nullish ≠ [] := List.cons_ne_nil _ _
  rw [modifiers_compileField, hr, hj, Bool.not_false, Bool.and_self, if_pos rfl]
  by_cases hm : nullish ∈ Directive.modifiers ds
  · obtain ⟨s, t, hst, hs⟩ := List.eq_append_cons_of_mem hm
    have hbefore : nullish ∉ leadingTokens f native? c related ++ s :=
      fun h => (List.mem_append.1 h).elim hlead hs
    have hlist : leadingTokens f native? c related ++ (Directive.modifiers ds
          ++ ((defaultToken? default?).toList ++ [nullish]))
        = (leadingTokens f native? c related ++ s) ++ nullish ::
          (t ++ (defaultToken? default?).toList ++ [nullish]) := by
      simp only [hst, List.append_assoc, List.cons_append]
    rw [hlist, getLast?_distinct hbefore hnil, isOvertaken_iff hst hs]
    constructor
    · rintro h ⟨x, hx, hx0, hxn, hxs⟩
      rcases h x (List.mem_append_left _ hx) with h | h | h
      · exact hx0 h
      · exact hxn h
      · exact hxs h
    · intro h y hy
      by_contra hn
      obtain ⟨hy0, hn⟩ := not_or.1 hn
      obtain ⟨hyn, hys⟩ := not_or.1 hn
      rcases List.mem_append.1 hy with hy | hy
      · exact h ⟨y, hy, hy0, hyn, hys⟩
      · exact hyn (List.mem_singleton.1 hy)
  · rw [← List.append_assoc, ← List.append_assoc, getLast?_distinct ?_ hnil]
    · refine ⟨fun _ ⟨s, t, hst, _⟩ => hm ?_, fun _ y hy => absurd hy (by simp)⟩
      rw [hst]
      exact List.mem_append_right _ List.mem_cons_self
    · intro h
      rcases List.mem_append.1 h with h | h
      · exact (List.mem_append.1 h).elim hlead hm
      · exact nullish_not_mem_default h

theorem nullish_mem_modifiers (hr : f.isRequired = false) (hj : f.hasType .json = false) :
    nullish ∈ (compileField f native? ds default? c related).modifiers := by
  rw [modifiers_compileField, hr, hj, Bool.not_false, Bool.and_self, if_pos rfl]
  refine mem_distinct.2 ⟨?_, List.cons_ne_nil _ _⟩
  exact List.mem_append_right _ (List.mem_append_right _
    (List.mem_append_right _ (List.mem_singleton_self _)))

end

/-- **The order of the modifiers.**  None occurs twice, so that `[array, t].Sublist` says that
`t` stands behind the `array()` of a list. -/
theorem order_modifiers (f : Field) (native? : Option Text) (ds : List Directive)
    (default? : Option Literal) (c : Config) (related : Text → Text) :
    let ms := (compileField f native? ds default? c related).modifiers
    ms.Nodup ∧
      (f.isList = true → array ∈ ms) ∧
      (∀ t, defaultToken? default? = some t →
        t ∈ ms ∧ (f.isList = true → [array, t].Sublist ms)) ∧
      (f.isRequired = false → f.hasType .json = false →
        nullish ∈ ms ∧
          (ms.getLast? = some nullish ↔ ¬ IsOvertaken f native? ds default? c related)) := by
  refine ⟨nodup_distinct _, array_mem_modifiers, fun t ht => ?_, fun hr hj => ?_⟩
  · exact ⟨default_mem_modifiers ht, fun hl => array_before_default hl ht⟩
  · exact ⟨nullish_mem_modifiers hr hj, getLast?_modifiers hr hj⟩

/-- An optional list with a default, and `array()` in the documentation once more. -/
theorem order_modifiers_list :
    let f : Field := { name := "tags", type := "String", isList := true, isRequired := false }
    let ms := (compileField f (some "VarChar(20)") [.modifier "array()", .modifier "max(3)"]
      (some (.text "x")) {} id).modifiers
    f.isList = true ∧ f.isRequired = false ∧ f.hasType .json = false ∧
      defaultToken? (some (.text "x")) = some "default(\"x\")" ∧
      [array, "default(\"x\")"].Sublist ms ∧ ms.getLast? = some nullish := by
  intro f ms
  obtain ⟨-, -, hdefault, hlast⟩ := order_modifiers f (some "VarChar(20)")
    [.modifier "array()", .modifier "max(3)"] (some (.text "x")) {} id
  refine ⟨rfl, rfl, rfl, rfl, (hdefault _ rfl).2 rfl, (hlast rfl rfl).2.2 ?_⟩
  rintro ⟨s, t, hst, -⟩
  have hm : nullish ∈ ([array, "max(3)"] : List Text) := by
    rw [show ([array, "max(3)"] : List Text) = s ++ nullish :: t from hst]
    exact List.mem_append_right _ List.mem_cons_self
  exact absurd hm (by decide)

/-- A `nullish()` of the documentation is met before the default, and a type of the name `Json` has
none, whatever it is. -/
theorem nullish_not_last :
    (compileField { name := "views", type := "Int", isRequired := false } none
        [.modifier "nullish()"] (some (.int 0)) {} id).modifiers
      = (["int()", "nullish()", "default(0)"] : List Text) ∧
    (compileField { name := "view", kind := .enum, type := "Json", isRequired := false } none
        [] none {} id).modifiers = [] := by
  decide +kernel

end ValidatorGen.Compile
