import Mathlib.Data.List.TakeWhile
import ValidatorGen.Proofs.Directive.Chain

/-!
# Literals by position

A scanner goes through a text by position.  It looks at the character at a position and goes on
behind it; there is one step for each character, and one to end with.  If it looks where there is no
character, or needs more steps, `none` comes out.

* `exists_loop?_eq` — a loop of which each step leaves less to do comes to an end;
* `skip?_eq` — characters with a property are passed over up to the first without it;
* `exists_endOfQuoted?`, `exists_endOfRegex?` — a literal is passed over up to its end.
-/

namespace ValidatorGen.Directive

universe u v

/-! ## Loops -/

section Loop

variable {σ : Type u} {ρ : Type v}

/-- Takes steps until one ends with a result; `none` if a step fails, or if none of the first `n`
ends. -/
def loop? (step : σ → Option (σ ⊕ ρ)) : Nat → σ → Option ρ
  | 0, _ => none
  | n + 1, a =>
    match step a with
    | none => none
    | some (.inl b) => loop? step n b
    | some (.inr r) => some r

/-- A step from `a` goes on, with less left and to a state whose results suit `a` too, or ends with
a result that suits. -/
inductive Progresses (step : σ → Option (σ ⊕ ρ)) (left : σ → Nat) (Suits : σ → ρ → Prop) (a : σ) :
    Prop
  | next {b : σ} (hstep : step a = some (.inl b)) (hleft : left b < left a)
      (hsuits : ∀ r, Suits b r → Suits a r)
  | done {r : ρ} (hstep : step a = some (.inr r)) (hsuits : Suits a r)

theorem exists_loop?_eq {step : σ → Option (σ ⊕ ρ)} {left : σ → Nat} {Suits : σ → ρ → Prop}
    (h : ∀ a, Progresses step left Suits a) {n : Nat} {a : σ} (hn : left a < n) :
    ∃ r, loop? step n a = some r ∧ Suits a r := by
  induction n generalizing a with
  | zero => exact absurd hn (Nat.not_lt_zero _)
  | succ n ih =>
    rw [loop?]
    cases h a with
    | next hstep hleft hsuits =>
      obtain ⟨r, hr, hsuit⟩ := ih (Nat.lt_of_lt_of_le hleft (Nat.le_of_lt_succ hn))
      rw [hstep]
      exact ⟨r, hr, hsuits r hsuit⟩
    | done hstep hsuits =>
      rw [hstep]
      exact ⟨_, rfl, hsuits⟩

end Loop

/-! ## Texts by position -/

/-- There is a character at a position in the text. -/
theorem exists_drop_eq_cons {s : Text} {i : Nat} (h : i < s.length) :
    ∃ c, s[i]? = some c ∧ s.drop i = c :: s.drop (i + 1) :=
  ⟨s[i], List.getElem?_eq_getElem h, List.drop_eq_getElem_cons h⟩

theorem drop_of_getElem? {s : Text} {i : Nat} {c : CodePoint} (h : s[i]? = some c) :
    i < s.length ∧ s.drop i = c :: s.drop (i + 1) := by
  obtain ⟨hi, rfl⟩ := List.getElem?_eq_some_iff.1 h
  exact ⟨hi, List.drop_eq_getElem_cons hi⟩

/-- What stands in front of a rest ends where the rest starts. -/
theorem take_of_append {s t u : Text} {j : Nat} (h : t ++ u = s) (hu : s.drop j = u) :
    s.take j = t := by
  have hcut : s.take j ++ u = t ++ u := by rw [h, ← hu, List.take_append_drop]
  exact List.append_cancel_right hcut

/-- One step over the characters with a property. -/
def skipStep (p : CodePoint → Bool) (s : Text) (i : Nat) : Option (Nat ⊕ Nat) :=
  if i < s.length then s[i]?.map fun c => if p c then .inl (i + 1) else .inr i
  else some (.inr i)

/-- The position behind the characters with a property. -/
def skip? (p : CodePoint → Bool) (s : Text) (i : Nat) : Option Nat :=
  loop? (skipStep p s) (s.length + 1) i

theorem skipStep_progresses (p : CodePoint → Bool) (s : Text) (i : Nat) :
    Progresses (skipStep p s) (s.length - ·)
      (fun i j => j = i + ((s.drop i).takeWhile p).length) i := by
  by_cases hi : i < s.length
  · obtain ⟨c, hc, hdrop⟩ := exists_drop_eq_cons hi
    cases hp : p c with
    | true =>
      have hstep : skipStep p s i = some (.inl (i + 1)) := by
        rw [skipStep, if_pos hi, hc, Option.map_some, if_pos hp]
      refine .next hstep (by omega) fun j hj => ?_
      rw [hj, hdrop, List.takeWhile_cons_of_pos hp, List.length_cons]
      omega
    | false =>
      have hstep : skipStep p s i = some (.inr i) := by
        rw [skipStep, if_pos hi, hc, Option.map_some, hp]
        rfl
      refine .done hstep ?_
      rw [hdrop, List.takeWhile_cons_of_neg (by simp [hp])]
      rfl
  · refine .done (r := i) (if_neg hi) ?_
    rw [List.drop_eq_nil_of_le (by omega)]
    rfl

theorem skip?_eq (p : CodePoint → Bool) (s : Text) (i : Nat) :
    skip? p s i = some (i + ((s.drop i).takeWhile p).length) := by
  have hleft : s.length - i < s.length + 1 := by omega
  obtain ⟨j, hj, rfl⟩ := exists_loop?_eq (skipStep_progresses p s) hleft
  exact hj

theorem drop_skip (p : CodePoint → Bool) (s : Text) (i : Nat) :
    s.drop (i + ((s.drop i).takeWhile p).length) = (s.drop i).dropWhile p := by
  rw [← List.drop_drop]
  conv_lhs =>
    arg 2
    rw [← List.takeWhile_append_dropWhile (p := p) (l := s.drop i)]
  rw [List.drop_left]

theorem skip_le {p : CodePoint → Bool} {s : Text} {i : Nat} (hi : i ≤ s.length) :
    i + ((s.drop i).takeWhile p).length ≤ s.length := by
  have h : ((s.drop i).takeWhile p).length ≤ (s.drop i).length :=
    (List.takeWhile_sublist p).length_le
  rw [List.length_drop] at h
  omega

/-! ## Literals by position -/

/-- `r` is what is left from the position `j` on, and `j` lies behind `i`, up to the end. -/
structure EndsAt (s : Text) (i : Nat) (r : Text) (j : Nat) : Prop where
  lt : i < j
  le : j ≤ s.length
  rest : s.drop j = r

theorem EndsAt.ne_nil {s r : Text} {i j : Nat} (h : EndsAt s i r j) (hlt : j < s.length) :
    r ≠ [] := by
  rw [← h.rest]
  exact fun hnil => absurd (List.drop_eq_nil_iff.1 hnil) (Nat.not_le_of_lt hlt)

/-- The text in front of the position behind a literal ends with the literal. -/
theorem EndsAt.take_eq {s r t : Text} {i j : Nat} (h : EndsAt s i r j)
    (ht : t ++ r = s.drop (i + 1)) : s.take j = s.take (i + 1) ++ t := by
  refine take_of_append ?_ h.rest
  rw [List.append_assoc, ht, List.take_append_drop]

/-- One step in a string literal between quotes `q`. -/
def quotedStep (q : CodePoint) (s : Text) (i : Nat) : Option (Nat ⊕ Nat) :=
  if i < s.length then
    s[i]?.map fun c : CodePoint =>
      if c = '\\' then .inl (i + 2) else if c = q then .inr (i + 1) else .inl (i + 1)
  else some (.inr s.length)

/-- The position behind the string literal that opens at `i`. -/
def endOfQuoted? (s : Text) (i : Nat) : Option Nat :=
  s[i]?.bind fun q => loop? (quotedStep q s) (s.length + 1) (i + 1)

/-- One step in a regular-expression literal; the state is a position, and whether it is in a
character class. -/
def regexStep (s : Text) (a : Nat × Bool) : Option ((Nat × Bool) ⊕ Nat) :=
  if a.1 < s.length then
    s[a.1]?.bind fun c : CodePoint =>
      if c = '\\' then some (.inl (a.1 + 2, a.2))
      else if c = '[' then some (.inl (a.1 + 1, true))
      else if c = ']' then some (.inl (a.1 + 1, false))
      else if c = '/' ∧ a.2 = false then (skip? Text.isLetter s (a.1 + 1)).map .inr
      else some (.inl (a.1 + 1, a.2))
  else some (.inr s.length)

/-- The position behind the regular-expression literal that opens at `i`. -/
def endOfRegex? (s : Text) (i : Nat) : Option Nat :=
  loop? (regexStep s) (s.length + 1) (i + 1, false)

theorem snd_spanQuoted_backslash (q : CodePoint) (r : Text) :
    (spanQuoted q (.char '\\' :: r)).2 = (spanQuoted q (r.drop 1)).2 := by
  cases r <;> rfl

theorem snd_spanRegex_backslash (k : Bool) (r : Text) :
    (spanRegex k (.char '\\' :: r)).2 = (spanRegex k (r.drop 1)).2 := by
  cases r <;> rfl

theorem spanRegex_cons {k : Bool} {c : CodePoint} (hb : c ≠ .char '\\') (r : Text) :
    spanRegex k (c :: r) =
      if c = '/' ∧ k = false then (c :: r.takeWhile Text.isLetter, r.dropWhile Text.isLetter)
      else (c :: (spanRegex (c = '[' || (k && c != ']')) r).1,
        (spanRegex (c = '[' || (k && c != ']')) r).2) := by
  rw [spanRegex]
  · exact fun h _ => hb h
  · exact fun _ _ h _ => hb h

/-- The rest `r` starts at `j`, in the text or at its end and not in front of `i`; only `i` may lie
behind the end, if it is what a backslash at the end would have taken with it. -/
structure Reaches (s : Text) (i : Nat) (r : Text) (j : Nat) : Prop where
  ge : min i s.length ≤ j
  le : j ≤ s.length
  rest : s.drop j = r

section Reaches

variable {s r : Text} {i i' j : Nat}

theorem Reaches.mono (h : Reaches s i' r j) (hi : i ≤ i') : Reaches s i r j :=
  ⟨by have := h.ge; omega, h.le, h.rest⟩

theorem Reaches.endsAt (h : Reaches s (i + 1) r j) (hi : i < s.length) : EndsAt s i r j :=
  ⟨by have := h.ge; omega, h.le, h.rest⟩

theorem reaches_length (hi : s.length ≤ i) : Reaches s i [] s.length :=
  ⟨by omega, Nat.le_refl _, List.drop_length⟩

end Reaches

theorem quotedStep_progresses (q : CodePoint) (s : Text) (i : Nat) :
    Progresses (quotedStep q s) (s.length - ·)
      (fun i => Reaches s i (spanQuoted q (s.drop i)).2) i := by
  by_cases hi : i < s.length
  · obtain ⟨c, hc, hdrop⟩ := exists_drop_eq_cons hi
    by_cases hb : c = .char '\\'
    · subst hb
      have hstep : quotedStep q s i = some (.inl (i + 2)) := by
        rw [quotedStep, if_pos hi, hc, Option.map_some, if_pos rfl]
      refine .next hstep (by omega) fun j hj => ?_
      rw [hdrop, snd_spanQuoted_backslash, List.drop_drop]
      exact hj.mono (by omega)
    · by_cases hq : c = q
      · have hstep : quotedStep q s i = some (.inr (i + 1)) := by
          rw [quotedStep, if_pos hi, hc, Option.map_some, if_neg hb, if_pos hq]
        refine .done hstep ?_
        rw [hdrop, spanQuoted_cons hb, if_pos hq]
        exact ⟨by omega, hi, rfl⟩
      · have hstep : quotedStep q s i = some (.inl (i + 1)) := by
          rw [quotedStep, if_pos hi, hc, Option.map_some, if_neg hb, if_neg hq]
        refine .next hstep (by omega) fun j hj => ?_
        rw [hdrop, spanQuoted_cons hb, if_neg hq]
        exact hj.mono (Nat.le_succ i)
  · refine .done (r := s.length) (if_neg hi) ?_
    rw [List.drop_eq_nil_of_le (by omega)]
    exact reaches_length (by omega)

theorem exists_endOfQuoted? {s : Text} {i : Nat} {q : CodePoint} (hq : s[i]? = some q) :
    ∃ j, endOfQuoted? s i = some j ∧ EndsAt s i (spanQuoted q (s.drop (i + 1))).2 j := by
  obtain ⟨hi, -⟩ := List.getElem?_eq_some_iff.1 hq
  have hleft : s.length - (i + 1) < s.length + 1 := by omega
  obtain ⟨j, hj, hreach⟩ := exists_loop?_eq (quotedStep_progresses q s) hleft
  refine ⟨j, ?_, hreach.endsAt hi⟩
  rw [endOfQuoted?, hq]
  exact hj

theorem regexStep_progresses (s : Text) (a : Nat × Bool) :
    Progresses (regexStep s) (s.length - ·.1)
      (fun a => Reaches s a.1 (spanRegex a.2 (s.drop a.1)).2) a := by
  obtain ⟨i, k⟩ := a
  by_cases hi : i < s.length
  · obtain ⟨c, hc, hdrop⟩ := exists_drop_eq_cons hi
    by_cases hb : c = .char '\\'
    · subst hb
      have hstep : regexStep s (i, k) = some (.inl (i + 2, k)) := by
        rw [regexStep, if_pos hi, hc]
        rfl
      refine .next hstep (by dsimp only; omega) fun j hj => ?_
      dsimp only at hj ⊢
      rw [hdrop, snd_spanRegex_backslash, List.drop_drop]
      exact hj.mono (by omega)
    · by_cases hs : c = .char '/' ∧ k = false
      · obtain ⟨rfl, rfl⟩ := hs
        have hstep : regexStep s (i, false)
            = some (.inr (i + 1 + ((s.drop (i + 1)).takeWhile Text.isLetter).length)) := by
          rw [regexStep, if_pos hi, hc, Option.bind_some, skip?_eq]
          rfl
        refine .done hstep ?_
        dsimp only
        rw [hdrop, spanRegex_cons hb, if_pos ⟨rfl, rfl⟩]
        exact ⟨by omega, skip_le hi, drop_skip _ s (i + 1)⟩
      · have hstep : regexStep s (i, k) = some (.inl (i + 1, c = '[' || (k && c != ']'))) := by
          simp only [regexStep, hi, hc, hb, hs, if_true, if_false, Option.bind_some]
          by_cases ho : c = '[' <;> by_cases hx : c = ']' <;> simp [ho, hx]
        refine .next hstep (by dsimp only; omega) fun j hj => ?_
        dsimp only at hj ⊢
        rw [hdrop, spanRegex_cons hb, if_neg hs]
        exact hj.mono (Nat.le_succ i)
  · refine .done (r := s.length) (if_neg hi) ?_
    dsimp only
    rw [List.drop_eq_nil_of_le (by omega)]
    exact reaches_length (by omega)

theorem exists_endOfRegex? {s : Text} {i : Nat} (hi : i < s.length) :
    ∃ j, endOfRegex? s i = some j ∧ EndsAt s i (spanRegex false (s.drop (i + 1))).2 j := by
  obtain ⟨j, hj, hreach⟩ :=
    exists_loop?_eq (regexStep_progresses s) (n := s.length + 1) (a := (i + 1, false)) (by omega)
  exact ⟨j, hj, hreach.endsAt hi⟩

end ValidatorGen.Directive
