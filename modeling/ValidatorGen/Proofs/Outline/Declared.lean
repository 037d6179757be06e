import ValidatorGen.Proofs.Check.Verdict
import ValidatorGen.Proofs.Outline.Exported

/-!
# The names that a run declares

A run declares the fields of its models and, for each model and each enumeration that stands on its
own, names made from theirs.  The check of names lets a line feed through at the end of a name, and
it does not look at the names of enumerations.

* `isIdentifier_schemaName_iff`, `isIdentifier_completeTypeName_iff`,
  `isIdentifier_enumSchemaName_iff` — when a generated name is an identifier, by family;
* `isIdentifier_declaredNames_iff` — those of a valid run are identifiers unless one of the two gaps
  is used.
-/

namespace ValidatorGen

/-! ## The end of a name -/

def EndsInLineFeed (s : Text) : Prop := s.getLast? = some (.char '\n')

instance (s : Text) : Decidable (EndsInLineFeed s) :=
  inferInstanceAs (Decidable (s.getLast? = some (.char '\n')))

theorem endsInLineFeed_append {s t : Text} (ht : t ≠ []) :
    EndsInLineFeed (s ++ t) ↔ EndsInLineFeed t := by
  unfold EndsInLineFeed
  rw [List.getLast?_append_of_ne_nil s ht]

namespace Check

/-! ## Letters of identifiers -/

theorem startsIdentifier_toUpper {c : CodePoint} (h : startsIdentifier c = true) :
    startsIdentifier c.toUpper = true :=
  CodePoint.forall_ascii
    (P := fun c => startsIdentifier c = true → startsIdentifier c.toUpper = true) (by decide)
    (toNat_lt_of_startsIdentifier h) h

theorem isIdentifier_upperFirst {s : Text} (h : isIdentifier s = true) :
    isIdentifier (upperFirst s) = true := by
  cases s with
  | nil => exact absurd h (by decide)
  | cons c r =>
    obtain ⟨hc, hr⟩ := (Bool.and_eq_true _ _).mp h
    have hu : Text.upperChar c = [c.toUpper] := by
      rw [Text.upperChar, if_pos (toNat_lt_of_startsIdentifier hc)]
    show isIdentifier (Text.upperChar c ++ r) = true
    rw [hu]
    exact (Bool.and_eq_true _ _).mpr ⟨startsIdentifier_toUpper hc, hr⟩

theorem isIdentifier_append_iff {s t : Text} (hs : isIdentifier s = true) :
    isIdentifier (s ++ t) = true ↔ t.all continuesIdentifier = true := by
  refine ⟨fun h => ?_, isIdentifier_append hs⟩
  have hall := all_continuesIdentifier h
  rw [List.all_append, Bool.and_eq_true] at hall
  exact hall.2

/-- A name that goes on as an identifier does not end in a line feed. -/
theorem not_endsInLineFeed {s : Text} (h : s.all continuesIdentifier = true) :
    ¬ EndsInLineFeed s := fun hs =>
  absurd (List.all_eq_true.1 h _ (List.mem_of_getLast? hs)) (by decide)

/-- Behind an accepted name, the line feed is all that keeps it from being an identifier. -/
theorem isIdentifier_iff_of_acceptsName {s : Text} (h : acceptsName s = true) :
    isIdentifier s = true ↔ ¬ EndsInLineFeed s := by
  refine ⟨fun hs => not_endsInLineFeed (all_continuesIdentifier hs), fun hs => ?_⟩
  rcases acceptsName_iff.1 h with h | ⟨t, rfl, -⟩
  · exact h
  · exact absurd List.getLast?_concat hs

/-- The same of what is accepted behind a name. -/
theorem all_continuesIdentifier_iff {s t : Text} (hs : isIdentifier s = true)
    (h : acceptsName (s ++ t) = true) :
    t.all continuesIdentifier = true ↔ ¬ EndsInLineFeed t := by
  rw [← isIdentifier_append_iff hs, isIdentifier_iff_of_acceptsName h, not_iff_not]
  by_cases ht : t = []
  · subst ht
    rw [List.append_nil]
    exact iff_of_false (not_endsInLineFeed (all_continuesIdentifier hs)) (by decide)
  · exact endsInLineFeed_append ht

/-! ## Generated names -/

theorem isIdentifier_completeTypeName_iff {m : Text} :
    isIdentifier (completeTypeName m) = true ↔ m.all continuesIdentifier = true :=
  isIdentifier_append_iff (by decide)

theorem isIdentifier_schemaName {c : Config} {m : Text} (hm : isIdentifier m = true)
    (hc : c.modelSuffix.all continuesIdentifier = true) :
    isIdentifier (c.schemaName m) = true := by
  unfold Config.schemaName
  refine isIdentifier_append ?_ hc
  cases c.modelCase with
  | pascal => exact hm
  | camel => exact isIdentifier_lowerFirst hm

theorem isIdentifier_modelSchemaName {c : Config} {m : Text} (hm : isIdentifier m = true)
    (hc : c.modelSuffix.all continuesIdentifier = true) :
    isIdentifier (c.modelSchemaName m) = true := by
  have hs := isIdentifier_schemaName hm hc
  unfold Config.modelSchemaName
  split_ifs
  · exact isIdentifier_append (s := "_") (by decide) (all_continuesIdentifier hs)
  · exact hs

theorem isIdentifier_relatedSchemaName {c : Config} {m : Text} (hm : isIdentifier m = true)
    (hc : c.modelSuffix.all continuesIdentifier = true) :
    isIdentifier (c.relatedSchemaName m) = true := by
  unfold Config.relatedSchemaName
  split_ifs
  · exact isIdentifier_schemaName hm hc
  · exact isIdentifier_schemaName
      (isIdentifier_append (s := "Related") (by decide) (all_continuesIdentifier hm)) hc

/-- Every schema of a model has the suffix at its end. -/
theorem all_modelSuffix {c : Config} {m : Text} (h : isIdentifier (c.modelSchemaName m) = true) :
    c.modelSuffix.all continuesIdentifier = true := by
  have hall := all_continuesIdentifier h
  unfold Config.modelSchemaName Config.schemaName at hall
  rw [List.all_append, List.all_append, Bool.and_eq_true, Bool.and_eq_true] at hall
  exact hall.2.2

/-- The word behind the name of an enumeration is an identifier by itself. -/
theorem isIdentifier_enumSchemaName_iff {n : Text} :
    isIdentifier (enumSchemaName n) = true ↔ n = [] ∨ isIdentifier (lowerFirst n) = true := by
  unfold enumSchemaName
  constructor
  · intro h
    by_cases hn : lowerFirst n = []
    · cases n with
      | nil => exact .inl rfl
      | cons a r =>
        obtain ⟨b, l, hl, -⟩ := exists_lowerChar a
        exact absurd (List.append_eq_nil_iff.1 hn).1 (by simp [hl])
    · obtain ⟨b, l, hl⟩ := List.exists_cons_of_ne_nil hn
      rw [hl] at h ⊢
      obtain ⟨hb, hr⟩ := (Bool.and_eq_true _ _).mp h
      have hl : l.all continuesIdentifier = true :=
        List.all_eq_true.2 fun x hx => List.all_eq_true.1 hr x (List.mem_append_left _ hx)
      exact .inr ((Bool.and_eq_true _ _).mpr ⟨hb, hl⟩)
  · rintro (rfl | h)
    · decide
    · exact isIdentifier_append h (by decide)

/-! ## All names of a run -/

/-- The names that the modules of a run declare, each model being taken to have relations. -/
def declaredNames (d : DataModel) (c : Config) : List Text :=
  (d.models.flatMap fun m => m.fields.map (·.name)
      ++ [c.modelSchemaName m.name, c.relatedSchemaName m.name, completeTypeName m.name])
    ++ if c.useStandaloneEnums then
        d.enums.flatMap fun n => [enumSchemaName n.name, enumTypeName n.name]
      else []

/-- No name makes use of what the check lets through. -/
structure HasPlainNames (d : DataModel) (c : Config) : Prop where
  models : ∀ m ∈ d.models, ¬ EndsInLineFeed m.name
  fields : ∀ m ∈ d.models, ∀ f ∈ m.fields, ¬ EndsInLineFeed f.name
  suffix : d.models ≠ [] → ¬ EndsInLineFeed c.modelSuffix
  enums : c.useStandaloneEnums = true → ∀ n ∈ d.enums,
    n.name = [] ∨ isIdentifier (lowerFirst n.name) = true

theorem mem_declaredNames {d : DataModel} {c : Config} {x : Text} :
    x ∈ declaredNames d c ↔
      (∃ m ∈ d.models, (∃ f ∈ m.fields, f.name = x) ∨ x = c.modelSchemaName m.name ∨
        x = c.relatedSchemaName m.name ∨ x = completeTypeName m.name) ∨
      (c.useStandaloneEnums = true ∧
        ∃ n ∈ d.enums, x = enumSchemaName n.name ∨ x = enumTypeName n.name) := by
  unfold declaredNames
  rw [List.mem_append, List.mem_flatMap, List.mem_ite_nil_right, List.mem_flatMap]
  simp only [List.mem_append, List.mem_map, List.mem_cons, List.not_mem_nil, or_false]

section

variable {d : DataModel} {c : Config} (h : IsSound d c)

include h

theorem isIdentifier_of_mem_declaredNames (hp : HasPlainNames d c) {x : Text}
    (hx : x ∈ declaredNames d c) : isIdentifier x = true := by
  rcases mem_declaredNames.1 hx with ⟨m, hm, hx⟩ | ⟨hs, n, hn, hx⟩
  · have hname := (isIdentifier_iff_of_acceptsName
      (h.accepted _ (List.mem_map_of_mem hm))).2 (hp.models m hm)
    have hsuffix := (all_continuesIdentifier_iff (s := "X") (by decide) h.suffix).2
      (hp.suffix (List.ne_nil_of_mem hm))
    rcases hx with ⟨f, hf, rfl⟩ | rfl | rfl | rfl
    · exact (isIdentifier_iff_of_acceptsName (h.fieldNames m hm f hf)).2 (hp.fields m hm f hf)
    · exact isIdentifier_modelSchemaName hname hsuffix
    · exact isIdentifier_relatedSchemaName hname hsuffix
    · exact isIdentifier_completeTypeName_iff.2 (all_continuesIdentifier hname)
  · have hschema := isIdentifier_enumSchemaName_iff.2 (hp.enums hs n hn)
    rcases hx with rfl | rfl
    · exact hschema
    · exact isIdentifier_upperFirst hschema

omit h in
/-- The names of models and the suffix stand in generated names, from which they can be seen. -/
theorem hasPlainNames_of_forall (hall : ∀ x ∈ declaredNames d c, isIdentifier x = true) :
    HasPlainNames d c where
  models := fun m hm => not_endsInLineFeed (isIdentifier_completeTypeName_iff.1
    (hall _ (mem_declaredNames.2 (.inl ⟨m, hm, .inr (.inr (.inr rfl))⟩))))
  fields := fun m hm f hf => not_endsInLineFeed (all_continuesIdentifier
    (hall _ (mem_declaredNames.2 (.inl ⟨m, hm, .inl ⟨f, hf, rfl⟩⟩))))
  suffix := fun hne => by
    obtain ⟨m, hm⟩ := List.exists_mem_of_ne_nil _ hne
    exact not_endsInLineFeed (all_modelSuffix
      (hall _ (mem_declaredNames.2 (.inl ⟨m, hm, .inr (.inl rfl)⟩))))
  enums := fun hs n hn => isIdentifier_enumSchemaName_iff.1
    (hall _ (mem_declaredNames.2 (.inr ⟨hs, n, hn, .inl rfl⟩)))

end

end Check

namespace Emitter

open Check

theorem mem_declaredNames_of_mem_exportedNames {e : Emitter} {d : DataModel} {x : Text}
    (hx : x ∈ e.exportedNames d) : x ∈ declaredNames d e.config := by
  rw [exportedNames_eq, List.mem_append, List.mem_flatMap, List.mem_flatMap] at hx
  rw [mem_declaredNames]
  rcases hx with ⟨name, hname, hx⟩ | ⟨m, hm, hx⟩
  · obtain ⟨hs, hname⟩ := mem_standaloneNames.1 hname
    obtain ⟨n, hn, rfl⟩ := List.mem_map.1 hname
    unfold enumsStandAlone at hs
    exact .inr ⟨((Bool.and_eq_true _ _).mp hs).1, n, hn, by simpa using hx⟩
  · refine .inl ⟨m, hm, .inr ?_⟩
    rcases List.mem_cons.1 hx with rfl | hx
    · exact .inl rfl
    · rcases List.mem_cons.1 (List.mem_ite_nil_right.1 hx).2 with rfl | hx
      · exact .inr (.inr rfl)
      · exact .inr (.inl (List.mem_singleton.1 hx))

/-- **The names that a valid run declares.**  What its modules export is among them, and all of them
are identifiers exactly if no name makes use of what the check lets through. -/
theorem isIdentifier_declaredNames_iff {e : Emitter} {d : DataModel}
    (h : (reportOf (findings d e.config)).isValid = true) :
    (∀ x ∈ e.exportedNames d, x ∈ declaredNames d e.config) ∧
      ((∀ x ∈ declaredNames d e.config, isIdentifier x = true) ↔ HasPlainNames d e.config) :=
  ⟨fun _ => mem_declaredNames_of_mem_exportedNames, hasPlainNames_of_forall,
    fun hp _ => isIdentifier_of_mem_declaredNames (isValid_iff_isSound.1 h) hp⟩

/-- Names in lower case under settings that change the first letter, and an enumeration. -/
theorem isIdentifier_declaredNames_blog :
    let c : Config :=
      { relationMode := .default, modelCase := .camel, modelSuffix := "$1", useStandaloneEnums := true }
    let e : Emitter := ⟨c, .empty, "@prisma/client", none⟩
    let author : Field := { name := "_author", kind := .relation, type := "User" }
    let d : DataModel :=
      ⟨[{ name := "User" }, { name := "$post", fields := [author] }], [⟨"role", ["ADMIN"]⟩]⟩
    (reportOf (findings d e.config)).isValid = true ∧
      (e.exportedNames d).length = 6 ∧ ∀ x ∈ e.exportedNames d, isIdentifier x = true := by
  intro c e author d
  have h : (reportOf (findings d e.config)).isValid = true := by decide +kernel
  have hp : HasPlainNames d e.config := ⟨by decide, by decide, by decide, by decide +kernel⟩
  obtain ⟨hexported, hall⟩ := isIdentifier_declaredNames_iff h
  exact ⟨h, by decide +kernel, fun x hx => hall.2 hp x (hexported x hx)⟩

/-- A line feed at the end of a field, a model or the suffix passes the check, and so does anything
as the name of an enumeration. -/
theorem not_isIdentifier_declaredNames :
    let field : DataModel :=
      { models := [{ name := "User", fields := [{ name := "id\n", type := "Int" }] }] }
    let model : DataModel := { models := [{ name := "User\n" }] }
    let suffixed : Config := { modelSuffix := "Model\n" }
    let enum : DataModel := { enums := [⟨"my role", ["ADMIN"]⟩] }
    let standalone : Config := { useStandaloneEnums := true }
    ((reportOf (findings field {})).isValid = true ∧
        ∃ x ∈ declaredNames field {}, isIdentifier x = false) ∧
      ((reportOf (findings model {})).isValid = true ∧
        ∃ x ∈ declaredNames model {}, isIdentifier x = false) ∧
      ((reportOf (findings { models := [{ name := "User" }] } suffixed)).isValid = true ∧
        ∃ x ∈ declaredNames { models := [{ name := "User" }] } suffixed, isIdentifier x = false) ∧
      ((reportOf (findings enum standalone)).isValid = true ∧
        ∃ x ∈ declaredNames enum standalone, isIdentifier x = false) := by
  intro field model suffixed enum standalone
  refine ⟨⟨by decide +kernel, ?_⟩, ⟨by decide +kernel, ?_⟩, ⟨by decide +kernel, ?_⟩,
    ⟨by decide +kernel, ?_⟩⟩
  all_goals decide +kernel

end Emitter

end ValidatorGen
