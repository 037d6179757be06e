import ValidatorGen.Proofs.Identifier

/-!
# Which generated names can be the same

The words in front and the lower case of a first letter keep some names apart, whatever the models
and enumerations are called.

* `exists_lowerChar` — no text in lower case begins with a capital letter of ASCII;
* `completeTypeName_injective`, `relatedSchemaName_ne` — the names of one family;
* `completeTypeName_ne_enumSchemaName`, `relatedSchemaName_ne_enumSchemaName`,
  `relatedSchemaName_ne_completeTypeName`, `modelSchemaName_ne_completeTypeName`,
  `modelSchemaName_ne_relatedSchemaName` — the names of two families.
-/

namespace ValidatorGen

/-! ## First letters -/

/-- A capital letter of ASCII. -/
def CodePoint.IsCapital (c : CodePoint) : Prop := 0x41 ≤ c.toNat ∧ c.toNat ≤ 0x5A

instance (c : CodePoint) : Decidable c.IsCapital :=
  inferInstanceAs (Decidable (0x41 ≤ c.toNat ∧ c.toNat ≤ 0x5A))

theorem CodePoint.le_toNat_ofNat {b n : Nat} (hb : b ≤ firstHalf) (h : b ≤ n) :
    b ≤ (ofNat n).toNat := by
  unfold ofNat
  split_ifs with hn
  · rw [toNat_char, Char.ofNat, dif_pos hn]
    exact h
  · exact Nat.le_add_right_of_le hb

/-- Beyond ASCII, lower case stays behind the capital letters. -/
theorem le_image_lowerRuns {n : Nat} (hn : 0x80 ≤ n) :
    0x5B ≤ (Text.lowerRuns.findSome? (·.image? n)).getD n := by
  have htargets : ∀ r ∈ Text.lowerRuns, 0x5B ≤ r.target := by decide +kernel
  cases h : Text.lowerRuns.findSome? (·.image? n) with
  | none => exact Nat.le_trans (by decide) hn
  | some k =>
    obtain ⟨r, hr, hk⟩ := List.exists_of_findSome?_eq_some h
    unfold Text.CaseRun.image? at hk
    split_ifs at hk
    cases hk
    exact Nat.le_add_right_of_le (htargets r hr)

theorem exists_lowerChar (c : CodePoint) :
    ∃ a l, Text.lowerChar c = a :: l ∧ ¬ a.IsCapital := by
  unfold Text.lowerChar
  split_ifs with hc
  · exact ⟨c.toLower, [], rfl,
      CodePoint.forall_ascii (P := fun c => ¬ c.toLower.IsCapital) (by decide) hc⟩
  · unfold Text.mapCase
    cases hl : Text.lowerExpansions.lookup c.toNat with
    | some ns =>
      have hns : ns = [0x69, 0x307] := by
        unfold Text.lowerExpansions at hl
        rw [List.lookup_cons] at hl
        split at hl
        · exact (Option.some.inj hl).symm
        · exact absurd hl (by simp)
      rw [hns]
      exact ⟨_, _, rfl, fun h => absurd h.2 (by decide)⟩
    | none =>
      refine ⟨_, [], rfl, fun h => ?_⟩
      have hle := CodePoint.le_toNat_ofNat (by decide) (le_image_lowerRuns (Nat.le_of_not_lt hc))
      exact absurd h.2 (by omega)

/-- A text that begins with a capital letter is none with a first character in lower case. -/
theorem lowerFirst_append_ne {s t u : Text} {c : CodePoint} (hs : s ≠ []) (hc : c.IsCapital) :
    lowerFirst s ++ t ≠ c :: u := by
  cases s with
  | nil => exact absurd rfl hs
  | cons b r =>
    obtain ⟨a, l, hl, ha⟩ := exists_lowerChar b
    intro h
    rw [show lowerFirst (b :: r) = Text.lowerChar b ++ r from rfl, hl] at h
    exact ha ((List.cons.inj h).1 ▸ hc)

/-! ## One family -/

theorem completeTypeName_injective : Function.Injective completeTypeName := fun _ _ h =>
  List.append_cancel_left h

/-- The word in front begins with a capital letter of ASCII, so that it can change its case. -/
theorem schemaName_related (c : Config) (m : Text) : c.schemaName ("Related" ++ m)
    = (match c.modelCase with
        | .pascal => "Related"
        | .camel => "related") ++ m ++ c.modelSuffix := by
  unfold Config.schemaName
  cases c.modelCase <;> rfl

/-- Schemas with relations are called as differently as those without. -/
theorem relatedSchemaName_ne {c : Config} {m n : Text} (hne : m ≠ n)
    (h : c.modelSchemaName m ≠ c.modelSchemaName n) :
    c.relatedSchemaName m ≠ c.relatedSchemaName n := by
  unfold Config.relatedSchemaName
  split_ifs with hd
  · intro he
    unfold Config.modelSchemaName at h
    exact h (congrArg _ he)
  · rw [schemaName_related, schemaName_related]
    exact fun he => hne (List.append_cancel_left (List.append_cancel_right he))

/-! ## Two families -/

theorem NameCase.eq_pascal {c : NameCase} (h : c ≠ .camel) : c = .pascal := by
  cases c with
  | pascal => rfl
  | camel => exact absurd rfl h

theorem completeTypeName_ne_enumSchemaName (m n : Text) :
    completeTypeName m ≠ enumSchemaName n := by
  intro h
  by_cases hn : n = []
  · rw [hn] at h
    exact absurd (List.cons.inj h).1 (by decide)
  · exact lowerFirst_append_ne (c := 'C') hn (by decide) h.symm

/-- With relations under names of their own, the word in front stands apart. -/
theorem relatedSchemaName_ne_enumSchemaName {c : Config} (hmode : c.relationMode ≠ .default)
    (hcase : c.modelCase = .pascal) (m n : Text) :
    c.relatedSchemaName m ≠ enumSchemaName n := by
  intro h
  unfold Config.relatedSchemaName at h
  rw [if_neg hmode, schemaName_related, hcase] at h
  by_cases hn : n = []
  · rw [hn] at h
    exact absurd (List.cons.inj h).1 (by decide)
  · exact lowerFirst_append_ne (c := 'R') hn (by decide) h.symm

theorem relatedSchemaName_ne_completeTypeName {c : Config} {m : Text} (hm : m ≠ [])
    (h : c.relationMode = .default → c.modelCase = .camel) (n : Text) :
    c.relatedSchemaName m ≠ completeTypeName n := by
  unfold Config.relatedSchemaName
  split_ifs with hd
  · unfold Config.schemaName
    rw [h hd]
    exact lowerFirst_append_ne (c := 'C') hm (by decide)
  · rw [schemaName_related]
    intro he
    cases hcase : c.modelCase <;> rw [hcase] at he <;>
      exact absurd (List.cons.inj he).1 (by decide)

/-- An underscore in front stands apart, and so does lower case. -/
theorem modelSchemaName_ne_completeTypeName {c : Config} {m : Text} (hm : m ≠ [])
    (h : c.relationMode ≠ .default → c.modelCase = .camel) (n : Text) :
    c.modelSchemaName m ≠ completeTypeName n := by
  unfold Config.modelSchemaName
  split_ifs with hd
  · intro he
    exact absurd (List.cons.inj he).1 (by decide)
  · unfold Config.schemaName
    rw [h hd]
    exact lowerFirst_append_ne (c := 'C') hm (by decide)

theorem length_lowerFirst {s : Text} (h : ∀ c ∈ s, c.toNat < 0x80) :
    (lowerFirst s).length = s.length := by
  cases s with
  | nil => rfl
  | cons c r =>
    show (Text.lowerChar c ++ r).length = _
    unfold Text.lowerChar
    rw [if_pos (h c List.mem_cons_self)]
    rfl

/-- The two schemas of one model differ in length. -/
theorem modelSchemaName_ne_relatedSchemaName {c : Config} {m : Text}
    (hm : Check.acceptsName m = true) : c.modelSchemaName m ≠ c.relatedSchemaName m := by
  intro he
  have hlength := congrArg List.length he
  have hlower := length_lowerFirst (Check.toNat_lt_of_acceptsName hm)
  unfold Config.modelSchemaName Config.relatedSchemaName at hlength
  split_ifs at hlength with hd
  · rw [List.length_append] at hlength
    exact absurd (Nat.add_eq_right.1 hlength) (by decide)
  · rw [schemaName_related] at hlength
    unfold Config.schemaName at hlength
    have hnone : ("" : Text).length = 0 := rfl
    have hword : 0 < ("Related" : Text).length ∧ 0 < ("related" : Text).length := by decide
    cases hcase : c.modelCase <;> rw [hcase] at hlength <;>
      simp only [List.length_append] at hlength
    · omega
    · omega

end ValidatorGen
