import Mathlib.Tactic.Common
import ValidatorGen.Document.Value
import ValidatorGen.Ordered

/-!
# Entries under a text

Nothing but the text itself is the same key as a text; so an entry that is put under one text is
found there, and what is found under any other text stays as it is.
-/

namespace ValidatorGen.Document

theorem beq_text_iff {k : Document} {s : Text} : (k == text s) = true ↔ k = text s := by
  change beq k (text s) = true ↔ k = text s
  cases k <;> simp [beq]

theorem same_text_iff {k : Document} {s : Text} : same k (text s) = true ↔ k = text s := by
  have hwhole : (text s).whole? = none := rfl
  unfold same
  rw [hwhole]
  cases hk : k.whole? with
  | some n =>
    refine iff_of_false Bool.false_ne_true ?_
    rintro rfl
    cases hk
  | none => cases k <;> exact beq_text_iff

variable {s t : Text} {v : Document} {es : List (Document × Document)}

theorem field?_cons (s : Text) (e : Document × Document) (es : List (Document × Document)) :
    field? s (e :: es) = if same e.1 (text s) then some e.2 else field? s es := rfl

/-- There is something under a text if an entry has it as its key. -/
theorem isSome_field?_iff : (field? s es).isSome = true ↔ ∃ e ∈ es, e.1 = text s := by
  induction es with
  | nil => simp [field?]
  | cons e es ih =>
    simp only [List.mem_cons, exists_eq_or_imp]
    rw [← ih, field?_cons]
    by_cases he : same e.1 (text s) = true
    · rw [if_pos he]
      exact iff_of_true rfl (.inl (same_text_iff.1 he))
    · have hne : e.1 ≠ text s := fun h => he (same_text_iff.2 h)
      simp [he, hne]

theorem field?_putBy_self (s : Text) (v : Document) (es : List (Document × Document)) :
    field? s (Ordered.putBy same (text s) v es) = some v := by
  induction es with
  | nil => simp [Ordered.putBy, field?_cons, same_text_iff]
  | cons e es ih =>
    unfold Ordered.putBy
    by_cases he : same e.1 (text s) = true
    · rw [if_pos he, field?_cons, if_pos he]
    · rw [if_neg he, field?_cons, if_neg he, ih]

theorem field?_putBy_of_ne (h : s ≠ t) (v : Document) (es : List (Document × Document)) :
    field? t (Ordered.putBy same (text s) v es) = field? t es := by
  have hkey : ¬ same (text s) (text t) = true := by
    rw [same_text_iff, text.injEq]
    exact h
  induction es with
  | nil => rw [Ordered.putBy, field?_cons, if_neg hkey]
  | cons e es ih =>
    unfold Ordered.putBy
    by_cases he : same e.1 (text s) = true
    · have het : ¬ same e.1 (text t) = true := by rwa [same_text_iff.1 he]
      rw [if_pos he, field?_cons, if_neg het, field?_cons, if_neg het]
    · rw [if_neg he, field?_cons, field?_cons, ih]

end ValidatorGen.Document
