import ValidatorGen.Proofs.Compile.Order

/-!
# What the name of a type decides

The type of an enumeration or of a relation is a name that the data model chose.  It stands in the
base of the validator and should decide nothing else.

* `modifiers_of_named`, `base_of_named` — what the parts of the validator read of the field;
* `modifiers_withType_iff` — the modifiers depend on whether the name is that of `Json`;
* `base_eq_reference_iff` — the base depends on whether it is that of `String`;
* `compileField_withType` — the two together.
-/

namespace ValidatorGen

/-- The same field with another type. -/
def Field.withType (f : Field) (type : Text) : Field := { f with type }

namespace Compile

open Expression

/-- What an enumeration or a relation refers to. -/
def reference (f : Field) (c : Config) (related : Text → Text) : Text :=
  match f.kind with
  | .enum => enumBase c f.type
  | _ => related f.type

section

variable {f : Field} (hk : f.kind ≠ .scalar) (native? : Option Text) (ds : List Directive)
  (default? : Option Literal) (c : Config) (related : Text → Text)

/-- The modifiers in front of `nullish()`. -/
def chosenTokens (f : Field) (ds : List Directive) (default? : Option Literal) : List Text :=
  (if f.isList then [array] else []) ++ Directive.modifiers ds ++ (defaultToken? default?).toList

theorem nullish_mem_chosenTokens_iff :
    nullish ∈ chosenTokens f ds default? ↔ nullish ∈ Directive.modifiers ds := by
  unfold chosenTokens
  constructor
  · intro h
    rcases List.mem_append.1 h with h | h
    · rcases List.mem_append.1 h with h | h
      · split_ifs at h
        · exact absurd (List.mem_singleton.1 h) (by decide)
        · exact absurd h List.not_mem_nil
      · exact h
    · exact absurd h nullish_not_mem_default
  · intro h
    exact List.mem_append_left _ (List.mem_append_right _ h)

include hk

theorem draft_of_named : draft f native? c related = ⟨reference f c related, [], false⟩ := by
  unfold draft reference
  cases h : f.kind with
  | scalar => exact absurd h hk
  | enum => rfl
  | relation => rfl

theorem modifiers_of_named :
    (compileField f native? ds default? c related).modifiers = distinct
      (chosenTokens f ds default? ++ if !f.isRequired && !f.hasType .json then [nullish] else []) := by
  unfold compileField
  dsimp only
  rw [draft_of_named hk]
  rfl

theorem base_of_named : (compileField f native? ds default? c related).base
    = overrideBase f ds (reference f c related) := by
  unfold compileField
  dsimp only
  rw [draft_of_named hk]
  rfl

/-- Another name changes the modifiers only on an optional field, if one of the two names is that of
`Json` and the documentation has no `nullish()` of its own. -/
theorem modifiers_withType_iff (type : Text) :
    (compileField (f.withType type) native? ds default? c related).modifiers
        = (compileField f native? ds default? c related).modifiers ↔
      f.isRequired = true ∨ nullish ∈ Directive.modifiers ds ∨
        (f.withType type).hasType .json = f.hasType .json := by
  have hnil : nullish ≠ [] := List.cons_ne_nil _ _
  have hlost : distinct (chosenTokens f ds default? ++ [nullish])
      = distinct (chosenTokens f ds default?) ↔ nullish ∈ Directive.modifiers ds := by
    rw [distinct_concat_eq_iff hnil, nullish_mem_chosenTokens_iff]
  have hk' : (f.withType type).kind ≠ .scalar := hk
  have hrequired : (f.withType type).isRequired = f.isRequired := rfl
  have hchosen : chosenTokens (f.withType type) ds default? = chosenTokens f ds default? := rfl
  rw [modifiers_of_named hk', modifiers_of_named hk, hchosen, hrequired]
  cases f.isRequired with
  | true => simp
  | false =>
    -- the two chains differ in a `nullish()` at the end of one of them at most
    cases (f.withType type).hasType .json <;> cases f.hasType .json
    · simp
    · simpa using hlost
    · simpa [eq_comm] using hlost
    · simp

/-- Without a custom schema the base is the reference, unless the name is that of `String` and the
documentation has a standalone validator. -/
theorem base_eq_reference_iff (hcustom : Directive.firstCustom ds = none) :
    (compileField f native? ds default? c related).base = reference f c related ↔
      (f.hasType .string = true → ∀ call, Directive.firstStandalone ds = some call →
        Directive.standaloneExpression call = reference f c related) := by
  rw [base_of_named hk]
  unfold overrideBase
  rw [hcustom]
  cases Directive.firstStandalone ds with
  | none => simp
  | some call => cases f.hasType .string <;> simp

end

/-- **What the name of a type decides.**  Another name for the type of an enumeration or a relation
leaves the modifiers as they are, and without a custom schema the base is the reference, exactly as
long as the names `Json` and `String` stay out of it. -/
theorem compileField_withType (f : Field) (hk : f.kind ≠ .scalar) (type : Text)
    (native? : Option Text) (ds : List Directive) (default? : Option Literal) (c : Config)
    (related : Text → Text) :
    ((compileField (f.withType type) native? ds default? c related).modifiers
        = (compileField f native? ds default? c related).modifiers ↔
      f.isRequired = true ∨ nullish ∈ Directive.modifiers ds ∨
        (f.withType type).hasType .json = f.hasType .json) ∧
    (Directive.firstCustom ds = none →
      ((compileField f native? ds default? c related).base = reference f c related ↔
        (f.hasType .string = true → ∀ call, Directive.firstStandalone ds = some call →
          Directive.standaloneExpression call = reference f c related))) :=
  ⟨modifiers_withType_iff hk native? ds default? c related type,
    base_eq_reference_iff hk native? ds default? c related⟩

/-- An optional role with a standalone validator, under two names. -/
theorem compileField_withType_role :
    let f : Field := { name := "role", kind := .enum, type := "Role", isRequired := false }
    let ds : List Directive := [.standalone "email" "email()", .modifier "readonly()"]
    f.kind ≠ .scalar ∧ Directive.firstCustom ds = none ∧
      (compileField (f.withType "Rank") none ds none {} id).modifiers
        = (compileField f none ds none {} id).modifiers ∧
      (compileField f none ds none {} id).base = "z.enum(Role)" := by
  intro f ds
  have hk : f.kind ≠ .scalar := by decide
  obtain ⟨hmodifiers, hbase⟩ := compileField_withType f hk "Rank" none ds none {} id
  refine ⟨hk, rfl, hmodifiers.2 (.inr (.inr (by decide))), (hbase rfl).2 fun h => ?_⟩
  exact absurd h (by decide)

/-- An enumeration of the name `Json` has no `nullish()`, and one of the name `String` gives way to
a standalone validator. -/
theorem not_compileField_withType :
    let f : Field := { name := "role", kind := .enum, type := "Role", isRequired := false }
    let ds : List Directive := [.standalone "email" "email()"]
    (compileField f none [] none {} id).modifiers = [nullish] ∧
      (compileField (f.withType "Json") none [] none {} id).modifiers = [] ∧
      (compileField (f.withType "String") none ds none {} id).base = "z.email()" ∧
      reference (f.withType "String") {} id = "z.enum(String)" := by
  decide +kernel

end Compile

end ValidatorGen
