import Mathlib.Tactic.Common
import ValidatorGen.Check.Identifier
import ValidatorGen.Naming

/-!
# Names made from identifiers

Changing the case of the first character of an identifier gives an identifier, and so does a word
behind one.  Identifiers are ASCII, so nothing of the case tables beyond ASCII comes in.

* `isIdentifier_enumSchemaName` — the schema of an enumeration;
* `lower_of_ascii` — lower case, as the names of files have it;
* `acceptsName_iff` — what the check of names accepts besides identifiers.
-/

namespace ValidatorGen

/-- What holds of the first numbers holds of all code points of ASCII. -/
theorem CodePoint.forall_ascii {P : CodePoint → Prop} (h : ∀ n : Fin 0x80, P (ofNat n))
    {c : CodePoint} (hc : c.toNat < 0x80) : P c := by
  have hn := h ⟨c.toNat, hc⟩
  rwa [ofNat_toNat] at hn

namespace Check

theorem toNat_lt_of_startsIdentifier {c : CodePoint} (h : startsIdentifier c = true) :
    c.toNat < 0x80 := by
  simp only [startsIdentifier, Bool.or_eq_true, beq_iff_eq] at h
  rcases h with (h | rfl) | rfl
  · cases c with
    | half n => exact absurd h (by simp [CodePoint.isAlpha])
    | char c =>
      have h : (decide (c.val ≥ 'A'.val ∧ c.val ≤ 'Z'.val) ||
          (decide (c.val ≥ 'a'.val) && decide (c.val ≤ 'z'.val))) = true := h
      simp only [Bool.or_eq_true, Bool.and_eq_true, decide_eq_true_eq,
        UInt32.le_iff_toNat_le, ge_iff_le] at h
      show c.val.toNat < 0x80
      rcases h with ⟨-, h⟩ | ⟨-, h⟩
      · exact Nat.lt_of_le_of_lt h (by decide)
      · exact Nat.lt_of_le_of_lt h (by decide)
  · decide
  · decide

theorem continuesIdentifier_of_starts {c : CodePoint} (h : startsIdentifier c = true) :
    continuesIdentifier c = true := by
  simp only [startsIdentifier, continuesIdentifier, CodePoint.isAlphanum, Bool.or_eq_true] at h ⊢
  tauto

theorem startsIdentifier_toLower {c : CodePoint} (h : startsIdentifier c = true) :
    startsIdentifier c.toLower = true :=
  CodePoint.forall_ascii
    (P := fun c => startsIdentifier c = true → startsIdentifier c.toLower = true) (by decide)
    (toNat_lt_of_startsIdentifier h) h

theorem isIdentifier_lowerFirst {s : Text} (h : isIdentifier s = true) :
    isIdentifier (lowerFirst s) = true := by
  cases s with
  | nil => exact absurd h (by decide)
  | cons c r =>
    obtain ⟨hc, hr⟩ := (Bool.and_eq_true _ _).mp h
    have hl : Text.lowerChar c = [c.toLower] := by
      rw [Text.lowerChar, if_pos (toNat_lt_of_startsIdentifier hc)]
    show isIdentifier (Text.lowerChar c ++ r) = true
    rw [hl]
    exact (Bool.and_eq_true _ _).mpr ⟨startsIdentifier_toLower hc, hr⟩

theorem isIdentifier_append {s t : Text} (hs : isIdentifier s = true)
    (ht : t.all continuesIdentifier = true) : isIdentifier (s ++ t) = true := by
  cases s with
  | nil => exact absurd hs (by decide)
  | cons c r =>
    obtain ⟨hc, hr⟩ := (Bool.and_eq_true _ _).mp hs
    refine (Bool.and_eq_true _ _).mpr ⟨hc, ?_⟩
    show (r ++ t).all continuesIdentifier = true
    rw [List.all_append, hr, ht]
    rfl

theorem all_continuesIdentifier {s : Text} (h : isIdentifier s = true) :
    s.all continuesIdentifier = true := by
  cases s with
  | nil => rfl
  | cons c r =>
    obtain ⟨hc, hr⟩ := (Bool.and_eq_true _ _).mp h
    rw [List.all_cons, continuesIdentifier_of_starts hc, hr]
    rfl

theorem isIdentifier_enumSchemaName {s : Text} (h : isIdentifier s = true) :
    isIdentifier (enumSchemaName s) = true :=
  isIdentifier_append (isIdentifier_lowerFirst h) rfl

/-! ## Lower case -/

/-- On ASCII texts nothing of the case tables comes in. -/
theorem lower_of_ascii {s : Text} (h : ∀ c ∈ s, c.toNat < 0x80) :
    Text.lower s = s.map CodePoint.toLower := by
  suffices hs : ∀ before, Text.lowerFrom before s = s.map CodePoint.toLower from hs []
  induction s with
  | nil => exact fun _ => rfl
  | cons c s ih =>
    rw [List.forall_mem_cons] at h
    intro before
    have hc : c ≠ 'Σ' := by
      rintro rfl
      exact absurd h.1 (by decide)
    rw [Text.lowerFrom, if_neg hc, Text.lowerChar, if_pos h.1, ih h.2]
    rfl

theorem toNat_lt_of_continuesIdentifier {c : CodePoint} (h : continuesIdentifier c = true) :
    c.toNat < 0x80 := by
  have hs : startsIdentifier c = true ∨ c.isDigit = true := by
    simp only [continuesIdentifier, startsIdentifier, CodePoint.isAlphanum, Bool.or_eq_true] at h ⊢
    tauto
  rcases hs with hs | hs
  · exact toNat_lt_of_startsIdentifier hs
  · cases c with
    | half n => exact absurd hs (by simp [CodePoint.isDigit])
    | char c =>
      simp only [CodePoint.isDigit, Char.isDigit, Bool.and_eq_true, decide_eq_true_eq,
        UInt32.le_iff_toNat_le] at hs
      exact Nat.lt_of_le_of_lt hs.2 (by decide)

/-! ## Accepted names -/

/-- An accepted name is an identifier, or one with a line feed behind it. -/
theorem acceptsName_iff {s : Text} :
    acceptsName s = true ↔
      isIdentifier s = true ∨ ∃ t, s = t ++ [.char '\n'] ∧ isIdentifier t = true := by
  have hlast : (s.getLast? == some (.char '\n')) = true ↔ ∃ t, s = t ++ [.char '\n'] := by
    rw [beq_iff_eq, List.getLast?_eq_some_iff]
  unfold acceptsName fitsLine
  rw [Bool.or_eq_true, Bool.and_eq_true]
  refine or_congr_right ⟨fun ⟨hl, ht⟩ => ?_, ?_⟩
  · obtain ⟨t, rfl⟩ := hlast.1 hl
    exact ⟨t, rfl, by rwa [List.dropLast_concat] at ht⟩
  · rintro ⟨t, hs, ht⟩
    exact ⟨hlast.2 ⟨t, hs⟩, by rwa [hs, List.dropLast_concat]⟩

theorem toNat_lt_of_acceptsName {s : Text} (h : acceptsName s = true) :
    ∀ c ∈ s, c.toNat < 0x80 := by
  have hid : ∀ t : Text, isIdentifier t = true → ∀ c ∈ t, c.toNat < 0x80 := fun t ht c hc =>
    toNat_lt_of_continuesIdentifier (List.all_eq_true.1 (all_continuesIdentifier ht) c hc)
  rcases acceptsName_iff.1 h with hs | ⟨t, rfl, ht⟩
  · exact hid s hs
  · intro c hc
    rcases List.mem_append.1 hc with hc | hc
    · exact hid t ht c hc
    · rw [List.mem_singleton.1 hc]
      decide

end Check

end ValidatorGen
