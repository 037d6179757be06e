import ValidatorGen.Proofs.Compile.Order

/-!
# Directives that come again

* `compileField_append_of_subset` — a directive that has occurred before changes nothing: neither
  the base, for which the first directive that asks for one decides, nor any of the modifiers, which
  stay where they are met first;
* `compileField_repeated` — with what a list of tokens becomes, and what a second one adds to it.
-/

namespace ValidatorGen

namespace Directive

variable {ds rs : List Directive}

/-- What comes again is not the first. -/
theorem findSome?_append_of_subset {α : Type*} (h : rs ⊆ ds) (g : Directive → Option α) :
    (ds ++ rs).findSome? g = ds.findSome? g := by
  rw [List.findSome?_append]
  cases hd : ds.findSome? g with
  | some a => rfl
  | none =>
    rw [Option.none_or, List.findSome?_eq_none_iff]
    exact fun d hd' => List.findSome?_eq_none_iff.1 hd d (h hd')

theorem modifiers_append (ds rs : List Directive) :
    modifiers (ds ++ rs) = modifiers ds ++ modifiers rs :=
  List.filterMap_append

theorem modifiers_subset (h : rs ⊆ ds) : modifiers rs ⊆ modifiers ds :=
  List.filterMap_subset _ h

end Directive

namespace Compile

open Expression

variable {ds rs : List Directive}

theorem overrideBase_append_of_subset (h : rs ⊆ ds) (f : Field) (base : Text) :
    overrideBase f (ds ++ rs) base = overrideBase f ds base := by
  unfold overrideBase Directive.firstCustom Directive.firstStandalone
  rw [Directive.findSome?_append_of_subset h, Directive.findSome?_append_of_subset h]

theorem modifiers_append_of_subset (h : rs ⊆ ds) (f : Field) (native? : Option Text)
    (default? : Option Literal) (c : Config) (related : Text → Text) :
    (compileField f native? (ds ++ rs) default? c related).modifiers
      = (compileField f native? ds default? c related).modifiers := by
  have hsub : Directive.modifiers rs
      ⊆ leadingTokens f native? c related ++ Directive.modifiers ds :=
    List.subset_append_of_subset_right _ (Directive.modifiers_subset h)
  rw [modifiers_compileField, modifiers_compileField, Directive.modifiers_append]
  simpa only [List.append_assoc] using distinct_append_of_subset hsub _

theorem compileField_append_of_subset (h : rs ⊆ ds) (f : Field) (native? : Option Text)
    (default? : Option Literal) (c : Config) (related : Text → Text) :
    compileField f native? (ds ++ rs) default? c related
      = compileField f native? ds default? c related :=
  congrArg₂ Expression.mk
    (overrideBase_append_of_subset h f (draft f native? c related).base)
    (modifiers_append_of_subset h f native? default? c related)

/-- **What comes again changes nothing.**  The modifiers of a validator are its tokens that are not
empty, each once and where it is met first, and a list behind adds those of its own that are not
there yet.  So a field is compiled from the directives of its documentation as from these with some
of them once more at the end. -/
theorem compileField_repeated :
    (∀ (base : Text) (s t : List Text),
      IsFirstSeen (s.filter (!·.isEmpty)) (build base s).modifiers ∧
        (build base (s ++ t)).modifiers = (build base s).modifiers
          ++ (build base t).modifiers.filter (· ∉ (build base s).modifiers)) ∧
    ∀ (f : Field) (native? : Option Text) (ds rs : List Directive) (default? : Option Literal)
      (c : Config) (related : Text → Text), rs ⊆ ds →
        compileField f native? (ds ++ rs) default? c related
          = compileField f native? ds default? c related := by
  constructor
  · intro base s t
    exact ⟨isFirstSeen_distinct s, distinct_append_filter s t⟩
  · intro f native? ds rs default? c related h
    exact compileField_append_of_subset h f native? default? c related

/-- Three of four directives come again; the default and `nullish()` stay where they are. -/
theorem compileField_repeated_greeting :
    let f : Field := { name := "greeting", type := "String", isRequired := false }
    let ds : List Directive :=
      [.modifier "min(1)", .standalone "email" "email()", .custom "z.any()", .modifier "nullish()"]
    let rs : List Directive := [.custom "z.any()", .modifier "nullish()", .modifier "min(1)"]
    rs ⊆ ds ∧
      (compileField f (some "VarChar(9)") (ds ++ rs) (some (.text "x")) {} id).modifiers
        = (["max(9)", "min(1)", "nullish()", "default(\"x\")"] : List Text) := by
  intro f ds rs
  have h : rs ⊆ ds := by decide
  refine ⟨h, ?_⟩
  rw [compileField_repeated.2 f _ ds rs _ _ _ h]
  decide +kernel

end Compile

end ValidatorGen
