import Mathlib.Tactic.Common
import ValidatorGen.Compile

/-!
# Where modifiers come from

The modifiers that come in front of `array()` are those of the column type and of the minimum
length.  Behind it come those of the documentation, the default and `nullish()`.

* `of_mem_draftString`, `of_mem_draftInt`, `of_mem_draftDecimal`, `of_mem_minLengthTokens` — what
  each of them appends;
* `isRefinement_of_mem_draft` — these are all;
* `of_mem_tailTokens` — what comes behind them;
* `IsRefinement.exists_cons` — none of them is `array()`, a default or `nullish()`, by its first
  letter.
-/

namespace ValidatorGen.Compile

/-- A modifier that the type of a field asks for. -/
inductive IsRefinement : Text → Prop
  | int : IsRefinement "int()"
  | low (n : Int) : IsRefinement (bound "min" n)
  | high (n : Int) : IsRefinement (bound "max" n)
  | numeral (digits scale : Int) : IsRefinement (numeralRefinement digits scale)
  | objectId : IsRefinement "regex(/^[0-9a-f]\x7b24\x7d$/i)"
  | trim : IsRefinement "trim()"
  | prefault : IsRefinement "prefault(\"\")"

/-! ## Where the modifiers come from -/

theorem of_mem_bound {name t : Text} {n? : Option Int} (h : t ∈ (n?.map (bound name)).toList) :
    ∃ n, t = bound name n := by
  obtain ⟨n, -, rfl⟩ := Option.map_eq_some_iff.1 (Option.mem_toList.1 h)
  exact ⟨n, rfl⟩

theorem of_decimalToken? {tag : Native.Tag} {t : Text} (h : decimalToken? tag = some t) :
    ∃ digits scale, t = numeralRefinement digits scale := by
  unfold decimalToken? at h
  split_ifs at h
  split at h
  · obtain ⟨p, -, h⟩ := Option.bind_eq_some_iff.1 h
    obtain ⟨s, -, h⟩ := Option.bind_eq_some_iff.1 h
    split_ifs at h
    unfold decimalRefinement? at h
    dsimp only at h
    split_ifs at h
    cases h
    exact ⟨_, _, rfl⟩
  · exact absurd h (by simp)

theorem of_mem_minLengthTokens {c : Config} {t : Text} (h : t ∈ minLengthTokens c) :
    t = "trim()" ∨ t = bound "min" 1 ∨ t = "prefault(\"\")" := by
  unfold minLengthTokens at h
  rcases List.mem_append.1 h with h | h
  · rcases List.mem_append.1 h with h | h
    · split_ifs at h
      · exact .inl (List.mem_singleton.1 h)
      · exact absurd h (by simp)
    · exact .inr (.inl (List.mem_singleton.1 h))
  · split_ifs at h
    · exact .inr (.inr (List.mem_singleton.1 h))
    · exact absurd h (by simp)

theorem of_mem_addMinLength {c : Config} {r : Bool} {d : Draft} {t : Text}
    (h : t ∈ (addMinLength c r d).tokens) : t ∈ d.tokens ∨ t ∈ minLengthTokens c := by
  unfold addMinLength at h
  split_ifs at h
  · exact List.mem_append.1 h
  · exact .inl h

section Drafts

variable {z t : Text} {tag? : Option Native.Tag}

theorem of_mem_draftString (h : t ∈ (draftString z tag?).tokens) :
    (∃ n, t = bound "max" n) ∨ t = "regex(/^[0-9a-f]\x7b24\x7d$/i)" := by
  cases tag? with
  | none => exact absurd h (by simp [draftString])
  | some tag =>
    unfold draftString at h
    dsimp only at h
    split_ifs at h
    · exact absurd h (by simp)
    · exact absurd h (by simp)
    · exact .inl (of_mem_bound h)
    · exact absurd h (by simp)
    · exact .inr (List.mem_singleton.1 h)
    · exact absurd h (by simp)

theorem of_mem_draftInt (h : t ∈ (draftInt z tag?).tokens) :
    t = "int()" ∨ (∃ n, t = bound "min" n) ∨ ∃ n, t = bound "max" n := by
  rcases List.mem_cons.1 h with rfl | h
  · exact .inl rfl
  · exact .inr ((List.mem_append.1 h).imp of_mem_bound of_mem_bound)

theorem of_mem_draftDecimal (h : t ∈ (draftDecimal z tag?).tokens) :
    ∃ digits scale, t = numeralRefinement digits scale := by
  obtain ⟨tag, -, h⟩ := Option.bind_eq_some_iff.1 (Option.mem_toList.1 h)
  exact of_decimalToken? h

theorem tokens_draftDateTime : (draftDateTime z tag?).tokens = [] := by
  unfold draftDateTime
  split <;> rfl

end Drafts

theorem isRefinement_of_mem_draftScalar {f : Field} {native? : Option Text} {c : Config} {t : Text}
    (h : t ∈ (draftScalar f native? c).tokens) : IsRefinement t := by
  unfold draftScalar at h
  dsimp only at h
  split at h
  case h_1 =>
    rcases of_mem_addMinLength h with h | h
    · obtain ⟨n, rfl⟩ | rfl := of_mem_draftString h
      · exact .high n
      · exact .objectId
    · obtain rfl | rfl | rfl := of_mem_minLengthTokens h
      · exact .trim
      · exact .low 1
      · exact .prefault
  case h_2 =>
    obtain rfl | ⟨n, rfl⟩ | ⟨n, rfl⟩ := of_mem_draftInt h
    · exact .int
    · exact .low n
    · exact .high n
  case h_5 =>
    obtain ⟨digits, scale, rfl⟩ := of_mem_draftDecimal h
    exact .numeral digits scale
  case h_6 => exact absurd h (by simp [tokens_draftDateTime])
  all_goals exact absurd h (by simp)

theorem isRefinement_of_mem_draft {f : Field} {native? : Option Text} {c : Config}
    {related : Text → Text} {t : Text} (h : t ∈ (draft f native? c related).tokens) :
    IsRefinement t := by
  unfold draft at h
  split at h
  · exact isRefinement_of_mem_draftScalar h
  · exact absurd h (by simp)
  · exact absurd h (by simp)

theorem of_mem_tailTokens {f : Field} {ds : List Directive} {default? : Option Literal} {t : Text}
    (h : t ∈ tailTokens f ds default?) :
    t = array ∨ t ∈ Directive.modifiers ds ∨ defaultToken? default? = some t ∨ t = nullish := by
  unfold tailTokens at h
  rcases List.mem_append.1 h with h | h
  · rcases List.mem_append.1 h with h | h
    · rcases List.mem_append.1 h with h | h
      · split_ifs at h
        · exact .inl (List.mem_singleton.1 h)
        · exact absurd h List.not_mem_nil
      · exact .inr (.inl h)
    · exact .inr (.inr (.inl (Option.mem_toList.1 h)))
  · split_ifs at h
    · exact .inr (.inr (.inr (List.mem_singleton.1 h)))
    · exact absurd h List.not_mem_nil

/-! ## How they begin -/

theorem IsRefinement.exists_cons {t : Text} (h : IsRefinement t) :
    ∃ c ∈ (['i', 'm', 'p', 'r', 't'] : List CodePoint), ∃ u, t = c :: u := by
  cases h with
  | int => exact ⟨'i', by decide, _, rfl⟩
  | low n => exact ⟨'m', by decide, _, rfl⟩
  | high n => exact ⟨'m', by decide, _, rfl⟩
  | numeral d s => exact ⟨'r', by decide, _, rfl⟩
  | objectId => exact ⟨'r', by decide, _, rfl⟩
  | trim => exact ⟨'t', by decide, _, rfl⟩
  | prefault => exact ⟨'p', by decide, _, rfl⟩

/-- A text that begins otherwise is none of them. -/
theorem not_mem_draft {f : Field} {native? : Option Text} {c : Config} {related : Text → Text}
    {x : CodePoint} {u : Text} (hx : x ∉ (['i', 'm', 'p', 'r', 't'] : List CodePoint)) :
    x :: u ∉ (draft f native? c related).tokens := by
  intro h
  obtain ⟨c, hc, v, e⟩ := (isRefinement_of_mem_draft h).exists_cons
  exact hx ((List.cons.inj e).1 ▸ hc)

end ValidatorGen.Compile
