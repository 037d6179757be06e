import ValidatorGen.Proofs.Document
import ValidatorGen.Proofs.Intake.Lawful

/-!
# Which settings are read

The settings of a host are read in two steps.  What is no setting is dropped; of what is left, each
setting is looked up under its two names, the outer one first, and an entry that is not looked up
that way is refused.

* `settings_eq_ok_iff` — settings are read one by one;
* `find?_hostEntries` — dropping entries hides no setting;
* `Gives.overridden` — settings some of which come from elsewhere;
* `exists_not_isUsed_iff` — not looked up is an inner name beside the outer one, and nothing else;
* `readHostConfig_eq_ok_iff`, `readHostConfig_of_twiceSpelled` — so it is what lawful readers
  refuse.
-/

namespace ValidatorGen

/-- The settings, those of these names taken from others. -/
def Config.overriddenBy (c : Config) (names : List Text) (c' : Config) : Config where
  relationMode := if ("relationModel" : Text) ∈ names then c'.relationMode else c.relationMode
  modelSuffix := if ("modelSuffix" : Text) ∈ names then c'.modelSuffix else c.modelSuffix
  modelCase := if ("modelCase" : Text) ∈ names then c'.modelCase else c.modelCase
  useCoerce := if ("useCoerce" : Text) ∈ names then c'.useCoerce else c.useCoerce
  useDecimalJs := if ("useDecimalJs" : Text) ∈ names then c'.useDecimalJs else c.useDecimalJs
  useStandaloneEnums :=
    if ("useStandaloneEnums" : Text) ∈ names then c'.useStandaloneEnums else c.useStandaloneEnums
  prismaJsonNullability :=
    if ("prismaJsonNullability" : Text) ∈ names then c'.prismaJsonNullability
    else c.prismaJsonNullability
  useMinLength := if ("useMinLength" : Text) ∈ names then c'.useMinLength else c.useMinLength
  useTrimStrings :=
    if ("useTrimStrings" : Text) ∈ names then c'.useTrimStrings else c.useTrimStrings
  usePrefaultEmptyString :=
    if ("usePrefaultEmptyString" : Text) ∈ names then c'.usePrefaultEmptyString
    else c.usePrefaultEmptyString
  imports? := if ("imports" : Text) ∈ names then c'.imports? else c.imports?
  zodImport := if ("zodImport" : Text) ∈ names then c'.zodImport else c.zodImport

theorem Config.overriddenBy_nil (c c' : Config) : c.overriddenBy [] c' = c := by
  simp [Config.overriddenBy]

namespace Intake

/-! ## One by one -/

theorem Reading.app_eq_ok {α β : Type} {f : Reading (α → β)} {x : Reading α} {b : β} :
    f.app x = .ok b ↔ ∃ g a, f = .ok g ∧ x = .ok a ∧ g a = b := by
  cases f <;> cases x <;> simp [Reading.app]

/-- These entries give these settings, one by one. -/
structure Gives (R : Readers) (es : Entries) (c : Config) : Prop where
  relationMode : (Key.mk "relationModel" "relation_model").optional .related R.relationMode es
    = .ok c.relationMode
  modelSuffix : (Key.mk "modelSuffix" "model_suffix").optional ("Model" : Text) R.text es
    = .ok c.modelSuffix
  modelCase : (Key.mk "modelCase" "model_case").optional .pascal R.nameCase es = .ok c.modelCase
  useCoerce : (Key.mk "useCoerce" "use_coerce").optional false R.switch es = .ok c.useCoerce
  useDecimalJs : (Key.mk "useDecimalJs" "use_decimal_js").optional true R.switch es
    = .ok c.useDecimalJs
  useStandaloneEnums : (Key.mk "useStandaloneEnums" "use_standalone_enums").optional false
    R.switch es = .ok c.useStandaloneEnums
  prismaJsonNullability : (Key.mk "prismaJsonNullability" "prisma_json_nullability").optional true
    R.switch es = .ok c.prismaJsonNullability
  useMinLength : (Key.mk "useMinLength" "use_min_length").optional false R.switch es
    = .ok c.useMinLength
  useTrimStrings : (Key.mk "useTrimStrings" "use_trim_strings").optional false R.switch es
    = .ok c.useTrimStrings
  usePrefaultEmptyString : (Key.mk "usePrefaultEmptyString" "use_prefault_empty_string").optional
    false R.switch es = .ok c.usePrefaultEmptyString
  imports : (Key.plain "imports").optional none (readNullable R.text) es = .ok c.imports?
  zodImport : (Key.mk "zodImport" "zod_import").optional ("zod" : Text) R.name es
    = .ok c.zodImport

section

variable {R : Readers}

theorem settings_eq_ok_iff {es : Entries} {c : Config} :
    R.settings es = .ok c ↔ Gives R es c := by
  constructor
  · intro h
    unfold ValueReaders.settings at h
    simp only [Reading.app_eq_ok] at h
    -- From the last setting to the first one.
    obtain ⟨_, _, h, hzod, rfl⟩ := h
    obtain ⟨_, _, h, himports, rfl⟩ := h
    obtain ⟨_, _, h, hprefault, rfl⟩ := h
    obtain ⟨_, _, h, htrim, rfl⟩ := h
    obtain ⟨_, _, h, hmin, rfl⟩ := h
    obtain ⟨_, _, h, hnull, rfl⟩ := h
    obtain ⟨_, _, h, henums, rfl⟩ := h
    obtain ⟨_, _, h, hdecimal, rfl⟩ := h
    obtain ⟨_, _, h, hcoerce, rfl⟩ := h
    obtain ⟨_, _, h, hcase, rfl⟩ := h
    obtain ⟨_, _, h, hsuffix, rfl⟩ := h
    obtain ⟨_, _, h, hmode, rfl⟩ := h
    cases h
    exact ⟨hmode, hsuffix, hcase, hcoerce, hdecimal, henums, hnull, hmin, htrim, hprefault,
      himports, hzod⟩
  · intro h
    unfold ValueReaders.settings
    rw [h.relationMode, h.modelSuffix, h.modelCase, h.useCoerce, h.useDecimalJs,
      h.useStandaloneEnums, h.prismaJsonNullability, h.useMinLength, h.useTrimStrings,
      h.usePrefaultEmptyString, h.imports, h.zodImport]
    rfl

end

/-! ## What is looked up -/

/-- An outer name, or an inner one that is no outer one. -/
def knownNames : List Text := settingKeys.map (·.outer) ++ settingKeys.map (·.inner)

theorem isKnown_iff {d : Document} : isKnown d = true ↔ ∃ n ∈ knownNames, d = .text n := by
  unfold isKnown knownNames
  simp only [List.any_eq_true, Bool.or_eq_true, Document.beq_text_iff, List.mem_append,
    List.mem_map]
  constructor
  · rintro ⟨k, hk, h | h⟩
    · exact ⟨k.outer, .inl ⟨k, hk, rfl⟩, h⟩
    · exact ⟨k.inner, .inr ⟨k, hk, rfl⟩, h⟩
  · rintro ⟨_, ⟨k, hk, rfl⟩ | ⟨k, hk, rfl⟩, h⟩
    · exact ⟨k, hk, .inl h⟩
    · exact ⟨k, hk, .inr h⟩

/-- No setting has the name of an entry for the host. -/
theorem not_isForHost_of_isKnown {d : Document} (h : isKnown d = true) : isForHost d = false := by
  obtain ⟨n, hn, rfl⟩ := isKnown_iff.1 h
  revert n
  decide +kernel

theorem isKnown_of_mem_hostEntries {es : Entries} {e : Document × Document}
    (h : e ∈ hostEntries es) : isKnown e.1 = true :=
  (Bool.and_eq_true_iff.1 (List.mem_filter.1 h).2).2

/-- Dropping entries hides no setting. -/
theorem field?_hostEntries {n : Text} (hn : n ∈ knownNames) (es : Entries) :
    Document.field? n (hostEntries es) = Document.field? n es := by
  induction es with
  | nil => rfl
  | cons e es ih =>
    unfold hostEntries at ih ⊢
    by_cases he : Document.same e.1 (.text n) = true
    · have hknown : isKnown e.1 = true := isKnown_iff.2 ⟨n, hn, Document.same_text_iff.1 he⟩
      rw [List.filter_cons_of_pos (by simp [hknown, not_isForHost_of_isKnown hknown]),
        Document.field?_cons, Document.field?_cons, if_pos he, if_pos he]
    · rw [Document.field?_cons, if_neg he, ← ih, List.filter_cons]
      split
      · rw [Document.field?_cons, if_neg he]
      · rfl

theorem find?_hostEntries {k : Key} (hk : k ∈ settingKeys) (es : Entries) :
    k.find? (hostEntries es) = k.find? es := by
  have houter : k.outer ∈ knownNames := List.mem_append_left _ (List.mem_map_of_mem hk)
  have hinner : k.inner ∈ knownNames := List.mem_append_right _ (List.mem_map_of_mem hk)
  unfold Key.find?
  rw [field?_hostEntries houter, field?_hostEntries hinner]

theorem optional_congr {α : Type} {es es' : Entries} {k : Key} (h : k.find? es' = k.find? es)
    (default : α) (read : Document → Reading α) :
    k.optional default read es' = k.optional default read es := by
  unfold Key.optional
  rw [h]

/-! ## Some settings from elsewhere -/

theorem optional_overridden {α : Type} {es new merged : Entries} {names : List Text}
    (hfind : ∀ k ∈ settingKeys,
      k.find? merged = if k.outer ∈ names then k.find? new else k.find? es)
    {k : Key} (hk : k ∈ settingKeys) {default a a' : α} {read : Document → Reading α}
    (h : k.optional default read es = .ok a) (h' : k.optional default read new = .ok a') :
    k.optional default read merged = .ok (if k.outer ∈ names then a' else a) := by
  by_cases hn : k.outer ∈ names
  · rw [optional_congr ((hfind k hk).trans (if_pos hn)), h', if_pos hn]
  · rw [optional_congr ((hfind k hk).trans (if_neg hn)), h, if_neg hn]

theorem Gives.overridden {R : Readers} {es new merged : Entries} {c c' : Config}
    {names : List Text} (h : Gives R es c) (h' : Gives R new c')
    (hfind : ∀ k ∈ settingKeys,
      k.find? merged = if k.outer ∈ names then k.find? new else k.find? es) :
    Gives R merged (c.overriddenBy names c') where
  relationMode := optional_overridden hfind (by decide) h.relationMode h'.relationMode
  modelSuffix := optional_overridden hfind (by decide) h.modelSuffix h'.modelSuffix
  modelCase := optional_overridden hfind (by decide) h.modelCase h'.modelCase
  useCoerce := optional_overridden hfind (by decide) h.useCoerce h'.useCoerce
  useDecimalJs := optional_overridden hfind (by decide) h.useDecimalJs h'.useDecimalJs
  useStandaloneEnums :=
    optional_overridden hfind (by decide) h.useStandaloneEnums h'.useStandaloneEnums
  prismaJsonNullability :=
    optional_overridden hfind (by decide) h.prismaJsonNullability h'.prismaJsonNullability
  useMinLength := optional_overridden hfind (by decide) h.useMinLength h'.useMinLength
  useTrimStrings := optional_overridden hfind (by decide) h.useTrimStrings h'.useTrimStrings
  usePrefaultEmptyString :=
    optional_overridden hfind (by decide) h.usePrefaultEmptyString h'.usePrefaultEmptyString
  imports := optional_overridden hfind (by decide) h.imports h'.imports
  zodImport := optional_overridden hfind (by decide) h.zodImport h'.zodImport

theorem Gives.of_find? {R : Readers} {es es' : Entries} {c : Config} (h : Gives R es c)
    (hfind : ∀ k ∈ settingKeys, k.find? es' = k.find? es) : Gives R es' c := by
  have h' : Gives R es' (c.overriddenBy [] c) :=
    h.overridden h fun k hk => (hfind k hk).trans (by simp)
  rwa [Config.overriddenBy_nil] at h'

theorem gives_hostEntries_iff {R : Readers} {es : Entries} {c : Config} :
    Gives R (hostEntries es) c ↔ Gives R es c :=
  ⟨fun h => h.of_find? fun _ hk => (find?_hostEntries hk es).symm,
    fun h => h.of_find? fun _ hk => find?_hostEntries hk es⟩

/-! ## What is refused -/

/-- A setting stands under both of its names. -/
structure TwiceSpelled (es : Entries) (k : Key) : Prop where
  inner_ne : k.inner ≠ k.outer
  outer : (Document.field? k.outer es).isSome = true
  inner : (Document.field? k.inner es).isSome = true

/-- The fault of an inner name beside the outer one. -/
def innerFault (k : Key) : Fault := extraFault k.inner

/-- The name under which a setting is found. -/
theorem name_of_find? {es : Entries} {k : Key} {n : Text} {v : Document}
    (h : k.find? es = some (n, v)) :
    n = k.outer ∨ Document.field? k.outer es = none ∧ n = k.inner := by
  unfold Key.find? at h
  split at h
  · cases h
    exact .inl rfl
  · next hnone =>
    obtain ⟨_, -, h⟩ := Option.map_eq_some_iff.1 h
    cases h
    exact .inr ⟨hnone, rfl⟩

theorem isUsed_outer {es : Entries} {k : Key} (hk : k ∈ settingKeys)
    (h : (Document.field? k.outer es).isSome = true) : IsUsed es k.outer := by
  obtain ⟨v, hv⟩ := Option.isSome_iff_exists.1 h
  exact ⟨k, hk, v, by simp [Key.find?, hv]⟩

/-- No two settings share a name. -/
theorem inner_ne_outer : ∀ k ∈ settingKeys, ∀ k' ∈ settingKeys, k.inner ≠ k.outer →
    k.inner ≠ k'.outer ∧ (k.inner = k'.inner → k = k') := by decide +kernel

/-- Nobody looks for the inner name where the outer one is there. -/
theorem isUsed_inner_iff {es : Entries} {k : Key} (hk : k ∈ settingKeys)
    (h : (Document.field? k.inner es).isSome = true) :
    IsUsed es k.inner ↔ ¬ TwiceSpelled es k := by
  constructor
  · rintro ⟨k', hk', v, hfind⟩ ⟨hne, houter, -⟩
    obtain ⟨houter', hinner'⟩ := inner_ne_outer k hk k' hk' hne
    rcases name_of_find? hfind with hn | ⟨hnone, hn⟩
    · exact houter' hn
    · obtain rfl := hinner' hn
      rw [hnone] at houter
      cases houter
  · intro htwice
    obtain ⟨v, hv⟩ := Option.isSome_iff_exists.1 h
    cases houter : Document.field? k.outer es with
    | none => exact ⟨k, hk, v, by simp [Key.find?, hv, houter]⟩
    | some w =>
      have heq : k.inner = k.outer :=
        Decidable.not_not.1 fun hne => htwice ⟨hne, by rw [houter]; rfl, h⟩
      rw [heq]
      exact isUsed_outer hk (by rw [houter]; rfl)

theorem twiceSpelled_hostEntries_iff {es : Entries} {k : Key} (hk : k ∈ settingKeys) :
    TwiceSpelled (hostEntries es) k ↔ TwiceSpelled es k := by
  have houter := field?_hostEntries (List.mem_append_left _ (List.mem_map_of_mem hk)) es
  have hinner := field?_hostEntries (List.mem_append_right _ (List.mem_map_of_mem hk)) es
  constructor
  · rintro ⟨hne, ho, hi⟩
    exact ⟨hne, houter ▸ ho, hinner ▸ hi⟩
  · rintro ⟨hne, ho, hi⟩
    exact ⟨hne, houter ▸ ho, hinner ▸ hi⟩

/-- Of what is left of a host's settings, an inner name beside the outer one is not looked up, and
nothing else. -/
theorem exists_not_isUsed_iff {es : Entries} {n : Text} :
    (∃ e ∈ hostEntries es, e.1 = .text n ∧ ¬ IsUsed (hostEntries es) n) ↔
      ∃ k ∈ settingKeys, TwiceSpelled es k ∧ n = k.inner := by
  constructor
  · rintro ⟨e, he, hkey, hunused⟩
    have hthere : (Document.field? n (hostEntries es)).isSome = true :=
      Document.isSome_field?_iff.2 ⟨e, he, hkey⟩
    obtain ⟨m, hm, hkey'⟩ := isKnown_iff.1 (isKnown_of_mem_hostEntries he)
    cases hkey.symm.trans hkey'
    -- An outer name that is there is looked up, so it is an inner one.
    rcases List.mem_append.1 hm with hm | hm
    · obtain ⟨k, hk, rfl⟩ := List.mem_map.1 hm
      exact absurd (isUsed_outer hk hthere) hunused
    · obtain ⟨k, hk, rfl⟩ := List.mem_map.1 hm
      have htwice := Classical.not_not.1 (mt (isUsed_inner_iff hk hthere).2 hunused)
      exact ⟨k, hk, (twiceSpelled_hostEntries_iff hk).1 htwice, rfl⟩
  · rintro ⟨k, hk, htwice, rfl⟩
    have htwice' := (twiceSpelled_hostEntries_iff hk).2 htwice
    obtain ⟨e, he, hkey⟩ := Document.isSome_field?_iff.1 htwice'.inner
    exact ⟨e, he, hkey, fun hused => (isUsed_inner_iff hk htwice'.inner).1 hused htwice'⟩

/-! ## The settings of a host -/

section

variable {R : Readers} (hR : R.Lawful) {es : Entries} {c : Config}

include hR

theorem readHostConfig_eq_ok_iff :
    readHostConfig R es = .ok c ↔ Gives R es c ∧ ∀ k ∈ settingKeys, ¬ TwiceSpelled es k := by
  have hused : (∀ e ∈ hostEntries es, ∀ n, e.1 = .text n → IsUsed (hostEntries es) n) ↔
      ∀ k ∈ settingKeys, ¬ TwiceSpelled es k := by
    constructor
    · intro h k hk htwice
      obtain ⟨e, he, hkey, hunused⟩ := exists_not_isUsed_iff.2 ⟨k, hk, htwice, rfl⟩
      exact hunused (h e he _ hkey)
    · intro h e he n hkey
      by_contra hunused
      obtain ⟨k, hk, htwice, -⟩ := exists_not_isUsed_iff.1 ⟨e, he, hkey, hunused⟩
      exact h k hk htwice
  unfold readHostConfig
  rw [hR.config_eq_ok_iff _ c fun _ he => isKnown_of_mem_hostEntries he, settings_eq_ok_iff,
    gives_hostEntries_iff, hused]

/-- Settings that are right but stand there twice are refused, each for its inner name. -/
theorem readHostConfig_of_twiceSpelled (h : Gives R es c)
    (htwice : ∃ k ∈ settingKeys, TwiceSpelled es k) :
    ∃ fs, readHostConfig R es = .refused (.faults fs) ∧
      ∀ f, f ∈ fs ↔ ∃ k ∈ settingKeys, TwiceSpelled es k ∧ f = innerFault k := by
  obtain ⟨k, hk, htwice⟩ := htwice
  obtain ⟨e, he, hkey, hunused⟩ := exists_not_isUsed_iff.2 ⟨k, hk, htwice, rfl⟩
  obtain ⟨fs, hfs, hmem⟩ := hR.config_extra _ c (fun _ he => isKnown_of_mem_hostEntries he)
    (settings_eq_ok_iff.2 (gives_hostEntries_iff.2 h)) ⟨e, he, _, hkey, hunused⟩
  refine ⟨fs, hfs, fun f => (hmem f).trans ?_⟩
  constructor
  · rintro ⟨e, he, n, hkey, hunused, rfl⟩
    obtain ⟨k, hk, htwice, rfl⟩ := exists_not_isUsed_iff.1 ⟨e, he, hkey, hunused⟩
    exact ⟨k, hk, htwice, rfl⟩
  · rintro ⟨k, hk, htwice, rfl⟩
    obtain ⟨e, he, hkey, hunused⟩ := exists_not_isUsed_iff.2 ⟨k, hk, htwice, rfl⟩
    exact ⟨e, he, _, hkey, hunused, rfl⟩

end

end Intake

end ValidatorGen
