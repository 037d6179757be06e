import ValidatorGen.Proofs.Compile.Base

/-!
# Coercion

With coercion the bases of most scalar types are taken from `z.coerce` in place of `z`.

* `draft_of_isFixed` — these fields do not see the setting;
* `draft_of_not_isFixed` — on all others the namespace stands in front of the base, and nowhere else;
* `overrideBase_cases` — the documentation puts another base in its place, or leaves it;
* `compileField_coercing` — so two runs, with coercion and without, differ in the front of the base
  at most.
-/

namespace ValidatorGen

/-- The same settings with coercion on or off. -/
def Config.coercing (c : Config) (on : Bool) : Config := { c with useCoerce := on }

namespace Compile

/-- The type of the field says what its base is, whatever the setting. -/
inductive IsFixed (f : Field) (native? : Option Text) : Prop
  | enum (h : f.kind = .enum)
  | relation (h : f.kind = .relation)
  | uuid {t : Native.Tag} (hs : f.hasType .string = true) (ht : columnTag? native? = some t)
      (hn : t.name = "uuid")
  | binary {t : Native.Tag} (hs : f.hasType .string = true) (ht : columnTag? native? = some t)
      (hn : t.name ∈ opaqueTags)
  | bytes (h : f.hasType .bytes = true)
  | json (h : f.hasType .json = true)
  | unmapped (h : Scalar.ofName? f.type = none)

/-- The documentation puts a base of its own in place of that of the field. -/
inductive IsOverridden (f : Field) (ds : List Directive) : Prop
  | custom {e : Text} (h : Directive.firstCustom ds = some e)
  | standalone {call : Text} (h : Directive.firstStandalone ds = some call)
      (hs : f.hasType .string = true)

/-! ## The namespace in a draft -/

/-- The namespace stands in front of the base, and nowhere else. -/
def PutsInFront (d : Text → Draft) : Prop :=
  ∃ rest tokens special, ∀ z, d z = ⟨z ++ ("." ++ rest), tokens, special⟩

theorem putsInFront_draftString {tag? : Option Native.Tag}
    (h : ∀ t, tag? = some t → t.name ≠ "uuid" ∧ t.name ∉ opaqueTags) :
    PutsInFront (draftString · tag?) := by
  cases tag? with
  | none => exact ⟨"string()", [], false, fun _ => rfl⟩
  | some t =>
    obtain ⟨huuid, hbinary⟩ := h t rfl
    unfold PutsInFront draftString
    simp only [if_neg huuid, if_neg hbinary]
    split_ifs
    · exact ⟨"string().toLowerCase()", [], true, fun _ => rfl⟩
    · exact ⟨"string()", _, false, fun _ => rfl⟩
    · exact ⟨"string()", _, true, fun _ => rfl⟩
    · exact ⟨"string()", [], false, fun _ => rfl⟩

theorem putsInFront_draftDateTime (tag? : Option Native.Tag) :
    PutsInFront (draftDateTime · tag?) := by
  unfold PutsInFront draftDateTime
  cases tag?.bind fun t => dayOrTimePattern? t.name with
  | none => exact ⟨"date()", [], false, fun _ => rfl⟩
  | some p =>
    refine ⟨"string()." ++ p, [], false, fun z => ?_⟩
    show Draft.mk (z ++ ".string()." ++ p) [] false = _
    rw [List.append_assoc]
    rfl

theorem PutsInFront.addMinLength {d : Text → Draft} (h : PutsInFront d) (c : Config) (r : Bool) :
    PutsInFront fun z => addMinLength c r (d z) := by
  obtain ⟨rest, tokens, special, hd⟩ := h
  unfold PutsInFront Compile.addMinLength
  simp only [hd]
  cases c.useMinLength && r && !special with
  | true => exact ⟨rest, tokens ++ minLengthTokens c, special, fun _ => rfl⟩
  | false => exact ⟨rest, tokens, special, fun _ => rfl⟩

/-! ## The settings -/

section

variable {f : Field} {native? : Option Text}

theorem draft_of_isFixed (h : IsFixed f native?) (c : Config) (related : Text → Text) :
    draft f native? (c.coercing true) related = draft f native? (c.coercing false) related := by
  unfold draft
  cases hk : f.kind with
  | enum => rfl
  | relation => rfl
  | scalar =>
    dsimp only
    cases h with
    | enum h => exact absurd (hk.symm.trans h) (by decide)
    | relation h => exact absurd (hk.symm.trans h) (by decide)
    | uuid hs ht hn =>
      have huuid : ∀ z, draftString z (columnTag? native?) = ⟨"z.uuid()", [], true⟩ := fun z => by
        rw [ht]
        exact if_pos hn
      rw [draftScalar_string hs, draftScalar_string hs, huuid, huuid]
      rfl
    | binary hs ht hn =>
      rw [draftScalar_string hs, draftScalar_string hs, ht, draftString_opaqueTags _ hn,
        draftString_opaqueTags _ hn]
      rfl
    | bytes h =>
      unfold draftScalar
      dsimp only
      rw [ofName?_of_hasType h]
    | json h => rw [draftScalar_json h, draftScalar_json h]
    | unmapped h =>
      unfold draftScalar
      dsimp only
      rw [h]

/-- Every other field takes its base from the namespace. -/
theorem draft_of_not_isFixed (h : ¬ IsFixed f native?) (c : Config) (related : Text → Text) :
    ∃ d, PutsInFront d ∧
      ∀ on, draft f native? (c.coercing on) related = d (namespaceOf (c.coercing on)) := by
  have hk : f.kind = .scalar := by
    cases hk : f.kind with
    | scalar => rfl
    | enum => exact absurd (.enum hk) h
    | relation => exact absurd (.relation hk) h
  unfold draft draftScalar
  simp only [hk]
  cases hs : Scalar.ofName? f.type with
  | none => exact absurd (.unmapped hs) h
  | some s =>
    cases s with
    | string =>
      have hstring : ∀ t, columnTag? native? = some t → t.name ≠ "uuid" ∧ t.name ∉ opaqueTags :=
        fun t ht => ⟨fun hn => h (.uuid (hasType_of_ofName? hs) ht hn),
          fun hn => h (.binary (hasType_of_ofName? hs) ht hn)⟩
      exact ⟨_, (putsInFront_draftString hstring).addMinLength c f.isRequired, fun _ => rfl⟩
    | int => exact ⟨_, ⟨"number()", _, false, fun _ => rfl⟩, fun _ => rfl⟩
    | bigInt => exact ⟨_, ⟨"bigint()", [], false, fun _ => rfl⟩, fun _ => rfl⟩
    | float => exact ⟨_, ⟨"number()", [], false, fun _ => rfl⟩, fun _ => rfl⟩
    | decimal => exact ⟨_, ⟨"number()", _, false, fun _ => rfl⟩, fun _ => rfl⟩
    | dateTime => exact ⟨_, putsInFront_draftDateTime _, fun _ => rfl⟩
    | boolean => exact ⟨_, ⟨"boolean()", [], false, fun _ => rfl⟩, fun _ => rfl⟩
    | bytes => exact absurd (.bytes (hasType_of_ofName? hs)) h
    | json => exact absurd (.json (hasType_of_ofName? hs)) h

end

/-! ## The documentation -/

/-- The documentation replaces the base, whatever it is, or leaves it as it is. -/
theorem overrideBase_cases (f : Field) (ds : List Directive) :
    (IsOverridden f ds ∧ ∃ e, ∀ base, overrideBase f ds base = e) ∨
      (¬ IsOverridden f ds ∧ ∀ base, overrideBase f ds base = base) := by
  unfold overrideBase
  cases hcustom : Directive.firstCustom ds with
  | some e => exact .inl ⟨.custom hcustom, e, fun _ => rfl⟩
  | none =>
    cases hstandalone : Directive.firstStandalone ds with
    | none =>
      refine .inr ⟨?_, fun _ => rfl⟩
      rintro (h | ⟨h, -⟩)
      · exact absurd (hcustom.symm.trans h) (by simp)
      · exact absurd (hstandalone.symm.trans h) (by simp)
    | some call =>
      cases hs : f.hasType .string with
      | true => exact .inl ⟨.standalone hstandalone hs, _, fun _ => rfl⟩
      | false =>
        refine .inr ⟨?_, fun _ => rfl⟩
        rintro (h | ⟨-, h⟩)
        · exact absurd (hcustom.symm.trans h) (by simp)
        · exact absurd (hs.symm.trans h) (by simp)

/-- **Coercion is a prefix.**  With coercion and without, a field has the same modifiers.  Its base is
the same if the documentation replaces it or if the type says what it is, and exactly then; otherwise
the one has `z.coerce` in front where the other has `z`. -/
theorem compileField_coercing (f : Field) (native? : Option Text) (ds : List Directive)
    (default? : Option Literal) (c : Config) (related : Text → Text) :
    let off := compileField f native? ds default? (c.coercing false) related
    let on := compileField f native? ds default? (c.coercing true) related
    on.modifiers = off.modifiers ∧
      (((IsOverridden f ds ∨ IsFixed f native?) ∧ on.base = off.base) ∨
        (¬ (IsOverridden f ds ∨ IsFixed f native?) ∧
          ∃ rest, off.base = "z." ++ rest ∧ on.base = "z.coerce." ++ rest)) := by
  intro off on
  by_cases hfixed : IsFixed f native?
  · have hsame : on = off := by
      unfold on off compileField
      rw [draft_of_isFixed hfixed]
    rw [hsame]
    exact ⟨rfl, .inl ⟨.inr hfixed, rfl⟩⟩
  · obtain ⟨d, ⟨rest, tokens, special, hd⟩, hdraft⟩ := draft_of_not_isFixed hfixed c related
    -- both runs are one function of the namespace
    have hrun : ∀ b, compileField f native? ds default? (c.coercing b) related
        = .build (overrideBase f ds (namespaceOf (c.coercing b) ++ ("." ++ rest)))
          (tokens ++ tailTokens f ds default?) := fun b => by
      unfold compileField
      rw [hdraft, hd]
    have hon : on.base = overrideBase f ds ("z.coerce" ++ ("." ++ rest)) :=
      congrArg Expression.base (hrun true)
    have hoff : off.base = overrideBase f ds ("z" ++ ("." ++ rest)) :=
      congrArg Expression.base (hrun false)
    refine ⟨?_, ?_⟩
    · exact (congrArg Expression.modifiers (hrun true)).trans
        (congrArg Expression.modifiers (hrun false)).symm
    · rw [hon, hoff]
      rcases overrideBase_cases f ds with ⟨ho, e, he⟩ | ⟨ho, he⟩
      · rw [he, he]
        exact .inl ⟨.inl ho, rfl⟩
      · rw [he, he]
        exact .inr ⟨fun h => h.elim ho hfixed, rest, rfl, rfl⟩

/-- A day is a text with coercion too, and an identifier keeps its base. -/
example :
    let c : Config := { useCoerce := true }
    (compileField { name := "day", type := "DateTime" } (some "Date") [] none c id).base
        = "z.coerce.string().regex(/^\\d\x7b4\x7d-\\d\x7b2\x7d-\\d\x7b2\x7d$/)" ∧
      (compileField { name := "id", type := "String" } (some "Uuid") [] none c id).base
        = "z.uuid()" := by
  decide +kernel

end Compile

end ValidatorGen
