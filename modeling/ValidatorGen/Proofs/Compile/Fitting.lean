import ValidatorGen.Proofs.Compile.Base
import ValidatorGen.Proofs.Compile.Order

/-!
# Modifiers and the bases they fit

A modifier calls a method, and the schema that stands in front of it has to have that method.

* `asked?_of_mem_draftString`, `asked?_of_mem_draftInt`, `asked?_of_mem_draftDecimal` — what the
  modifiers of each type ask their base to be;
* `mem_bases_draftString` — the base of a string builds a string, unless its column is opaque;
* `fits_compileField_iff` — without directives every modifier of a scalar field fits its base, except
  where a minimum length is put on an opaque column.
-/

namespace ValidatorGen.Compile

open Expression

/-! ## Schemas and methods -/

/-- What a schema is one of, as far as the modifiers of scalar fields ask. -/
inductive Shape
  | string
  | number
  deriving DecidableEq, Repr

/-- The bases that modifiers for this shape can be put on, with coercion and without. -/
def Shape.bases : Shape → List Text
  | string => ["z.string()", "z.coerce.string()", "z.string().toLowerCase()",
      "z.coerce.string().toLowerCase()", "z.uuid()"]
  | number => ["z.number()", "z.coerce.number()"]

/-- The method that a modifier calls. -/
def method (m : Text) : Text := m.takeWhile (!·.is '(')

/-- What a modifier asks the base of a field to be.  A bound is one on the length of a string field,
and on the value of any other. -/
def asked? (f : Field) (m : Text) : Option Shape :=
  if method m ∈ (["trim", "prefault", "regex"] : List Text) then some .string
  else if method m ∈ (["int", "refine"] : List Text) then some .number
  else if method m ∈ (["min", "max"] : List Text) then
    some (if f.hasType .string then .string else .number)
  else none

/-- The base is what the modifier asks for, if it asks for anything. -/
def Fits (f : Field) (base m : Text) : Prop := ∀ s, asked? f m = some s → base ∈ s.bases

/-- A minimum length is put on a string whose column is opaque. -/
def IsOpaqueWithMinimum (f : Field) (native? : Option Text) (c : Config) : Prop :=
  f.hasType .string = true ∧ (∃ t, columnTag? native? = some t ∧ t.name ∈ opaqueTags) ∧
    c.useMinLength = true ∧ f.isRequired = true

theorem Fits.of_asked? {f : Field} {base m : Text} {s : Shape} (h : asked? f m = some s)
    (hb : base ∈ s.bases) : Fits f base m := by
  intro s' h'
  obtain rfl : s = s' := Option.some.inj (h.symm.trans h')
  exact hb

theorem Fits.of_none {f : Field} {base m : Text} (h : asked? f m = none) : Fits f base m := by
  intro s h'
  exact absurd (h.symm.trans h') (by simp)

/-! ## What the modifiers ask for -/

section

variable {f : Field} {m z : Text} {tag? : Option Native.Tag}

theorem asked?_bound {name : Text} (h : name ∈ (["min", "max"] : List Text)) (n : Int) :
    asked? f (bound name n) = some (if f.hasType .string then .string else .number) := by
  rcases List.mem_pair.1 h with rfl | rfl <;> rfl

theorem asked?_of_mem_minLengthTokens {c : Config} (hf : f.hasType .string = true)
    (hm : m ∈ minLengthTokens c) : asked? f m = some .string := by
  obtain rfl | rfl | rfl := of_mem_minLengthTokens hm
  · rfl
  · rw [asked?_bound (by decide), if_pos hf]
  · rfl

theorem asked?_of_mem_draftString (hf : f.hasType .string = true)
    (hm : m ∈ (draftString z tag?).tokens) : asked? f m = some .string := by
  obtain ⟨n, rfl⟩ | rfl := of_mem_draftString hm
  · rw [asked?_bound (by decide), if_pos hf]
  · rfl

theorem asked?_of_mem_draftInt (hf : f.hasType .string = false)
    (hm : m ∈ (draftInt z tag?).tokens) : asked? f m = some .number := by
  have hbound : ∀ {name : Text}, name ∈ (["min", "max"] : List Text) → ∀ n,
      asked? f (bound name n) = some .number := fun h n => by
    rw [asked?_bound h, hf]
    rfl
  obtain rfl | ⟨n, rfl⟩ | ⟨n, rfl⟩ := of_mem_draftInt hm
  · rfl
  · exact hbound (by decide) n
  · exact hbound (by decide) n

theorem asked?_of_mem_draftDecimal (hm : m ∈ (draftDecimal z tag?).tokens) :
    asked? f m = some .number := by
  obtain ⟨digits, scale, rfl⟩ := of_mem_draftDecimal hm
  rfl

end

theorem asked?_of_mem_tailTokens {f : Field} {default? : Option Literal} {m : Text}
    (hm : m ∈ tailTokens f [] default?) : asked? f m = none := by
  obtain rfl | hm | hm | rfl := of_mem_tailTokens hm
  · rfl
  · exact absurd hm List.not_mem_nil
  · obtain ⟨l, -, rfl⟩ := Option.map_eq_some_iff.1 hm
    rfl
  · rfl

/-! ## What the bases are -/

theorem mem_bases_string (c : Config) : namespaceOf c ++ ".string()" ∈ Shape.bases .string := by
  unfold namespaceOf
  cases c.useCoerce <;> decide +kernel

theorem mem_bases_number (c : Config) : namespaceOf c ++ ".number()" ∈ Shape.bases .number := by
  unfold namespaceOf
  cases c.useCoerce <;> decide +kernel

theorem mem_bases_draftString (c : Config) {tag? : Option Native.Tag}
    (h : ¬ ∃ t, tag? = some t ∧ t.name ∈ opaqueTags) :
    (draftString (namespaceOf c) tag?).base ∈ Shape.bases .string := by
  have hlower : namespaceOf c ++ ".string().toLowerCase()" ∈ Shape.bases .string := by
    unfold namespaceOf
    cases c.useCoerce <;> decide +kernel
  cases tag? with
  | none => exact mem_bases_string c
  | some t =>
    unfold draftString
    dsimp only
    split_ifs with _ _ _ hopaque
    · decide
    · exact hlower
    · exact mem_bases_string c
    · exact absurd ⟨t, rfl, hopaque⟩ h
    · exact mem_bases_string c
    · exact mem_bases_string c

/-! ## Which modifiers fit -/

/-- Only what the type of the field appends asks anything of the base. -/
theorem forall_fits_iff (f : Field) (native? : Option Text) (default? : Option Literal) (c : Config)
    (related : Text → Text) (base : Text) :
    (∀ m ∈ (compileField f native? [] default? c related).modifiers, Fits f base m) ↔
      ∀ m ∈ (draft f native? c related).tokens, Fits f base m := by
  constructor
  · intro h m hm
    obtain ⟨x, -, u, rfl⟩ := (isRefinement_of_mem_draft hm).exists_cons
    exact h _ (mem_distinct.2 ⟨List.mem_append_left _ hm, List.cons_ne_nil _ _⟩)
  · intro h m hm
    rcases List.mem_append.1 (mem_distinct.1 hm).1 with hm | hm
    · exact h m hm
    · exact .of_none (asked?_of_mem_tailTokens hm)

theorem fits_draftScalar {f : Field} (hs : f.hasType .string = false) (native? : Option Text)
    (c : Config) :
    ∀ m ∈ (draftScalar f native? c).tokens, Fits f (draftScalar f native? c).base m := by
  unfold draftScalar
  dsimp only
  split
  case h_1 h => exact absurd (hasType_of_ofName? h) (by simp [hs])
  case h_2 => exact fun m hm => .of_asked? (asked?_of_mem_draftInt hs hm) (mem_bases_number c)
  case h_5 => exact fun m hm => .of_asked? (asked?_of_mem_draftDecimal hm) (mem_bases_number c)
  case h_6 =>
    rw [tokens_draftDateTime]
    exact fun m hm => absurd hm List.not_mem_nil
  all_goals exact fun m hm => absurd hm List.not_mem_nil

theorem fits_draftScalar_string_iff {f : Field} (hs : f.hasType .string = true)
    (native? : Option Text) (c : Config) :
    (∀ m ∈ (draftScalar f native? c).tokens, Fits f (draftScalar f native? c).base m) ↔
      ¬ IsOpaqueWithMinimum f native? c := by
  rw [draftScalar_string hs, base_addMinLength]
  by_cases hopaque : ∃ t, columnTag? native? = some t ∧ t.name ∈ opaqueTags
  · obtain ⟨t, ht, hname⟩ := hopaque
    rw [ht, draftString_opaqueTags _ hname]
    unfold addMinLength
    constructor
    · -- `min(1)` is asked of `z.unknown()`
      rintro h ⟨-, -, hmin, hr⟩
      have hm : bound "min" 1 ∈ minLengthTokens c :=
        List.mem_append_left _ (List.mem_append_right _ (List.mem_singleton_self _))
      rw [hmin, hr] at h
      exact absurd (h _ hm _ (asked?_of_mem_minLengthTokens hs hm)) (by decide)
    · intro h m hm
      split_ifs at hm with hc
      · rw [Bool.and_eq_true, Bool.and_eq_true] at hc
        exact absurd ⟨hs, ⟨t, ht, hname⟩, hc.1.1, hc.1.2⟩ h
      · exact absurd hm List.not_mem_nil
  · constructor
    · rintro - ⟨-, h, -⟩
      exact hopaque h
    · intro _ m hm
      refine .of_asked? ?_ (mem_bases_draftString c hopaque)
      rcases of_mem_addMinLength hm with hm | hm
      · exact asked?_of_mem_draftString hs hm
      · exact asked?_of_mem_minLengthTokens hs hm

/-- **Modifiers fit their base.**  Without directives every modifier of a scalar field that asks for
a string stands on a base that builds one, and every modifier that asks for a number on one that
builds a number, except where a minimum length is put on an opaque column. -/
theorem fits_compileField_iff (f : Field) (hk : f.kind = .scalar) (native? : Option Text)
    (default? : Option Literal) (c : Config) (related : Text → Text) :
    let e := compileField f native? [] default? c related
    (∀ m ∈ e.modifiers, Fits f e.base m) ↔ ¬ IsOpaqueWithMinimum f native? c := by
  intro e
  have hdraft : draft f native? c related = draftScalar f native? c := by
    unfold draft
    rw [hk]
  have hbase : e.base = (draftScalar f native? c).base := by
    rw [← hdraft]
    rfl
  rw [forall_fits_iff, hdraft, hbase]
  cases hs : f.hasType .string with
  | true => exact fits_draftScalar_string_iff hs native? c
  | false =>
    refine iff_of_true (fits_draftScalar hs native? c) ?_
    rintro ⟨h, -⟩
    exact absurd h (by simp [hs])

/-- A string with a length, trimmed and not empty. -/
theorem fits_compileField_title :
    let f : Field := { name := "title", type := "String" }
    let c : Config := { useMinLength := true, useTrimStrings := true, usePrefaultEmptyString := true }
    let e := compileField f (some "VarChar(255)") [] (some (.text "x")) c id
    f.kind = .scalar ∧
      e.modifiers
        = (["max(255)", "trim()", "min(1)", "prefault(\"\")", "default(\"x\")"] : List Text) ∧
      ∀ m ∈ e.modifiers, Fits f e.base m := by
  intro f c e
  refine ⟨rfl, by decide +kernel, (fits_compileField_iff f rfl _ _ c id).2 ?_⟩
  rintro ⟨-, ⟨t, ht, hname⟩, -⟩
  obtain rfl : t = ⟨"varchar", ["255"]⟩ := Option.some.inj (ht.symm.trans (by decide +kernel))
  exact absurd hname (by decide)

/-- A minimum length on an opaque column is asked of `z.unknown()`, which has no such method. -/
theorem not_fits_compileField :
    let f : Field := { name := "hash", type := "String" }
    let c : Config := { useMinLength := true }
    let e := compileField f (some "VarBinary(16)") [] none c id
    f.kind = .scalar ∧ e.base = unknown ∧ e.modifiers = [("min(1)" : Text)] ∧
      ¬ Fits f e.base "min(1)" := by
  refine ⟨rfl, by decide +kernel, by decide +kernel, fun h => ?_⟩
  exact absurd (h .string rfl) (by decide +kernel)

end ValidatorGen.Compile
