import ValidatorGen.Proofs.Directive.Position

/-!
# Closing brackets by position

`close?` carries along the last character that is not blank.  A search by position has nothing to
carry: where it meets a slash it looks back.  Both see the same, behind a literal too, of which
`close?` keeps the quote or slash that opens it: a literal with text behind it ends in a quote, a
slash or a letter, and no operand starts behind any of these.

* `operandAt?_eq` — looking back from a position in the text;
* `closingStep_progresses` — one step of the search;
* `exists_closing?_eq` — the whole search.
-/

namespace ValidatorGen.Directive

open Nesting

/-! ## Where an operand may start -/

/-- An operand may start behind the text: its last character that is not blank says so, and so does
a text without one. -/
def operandBehind (t : Text) : Bool :=
  match t.reverse.dropWhile Text.isBlank with
  | [] => true
  | c :: _ => beforeOperand c

/-- Looks back from the position `i`. -/
def operandAt? (s : Text) : Nat → Option Bool
  | 0 => some true
  | i + 1 => s[i]?.bind fun c => if Text.isBlank c then operandAt? s i else some (beforeOperand c)

theorem operandBehind_concat (t : Text) (c : CodePoint) :
    operandBehind (t ++ [c]) = if Text.isBlank c then operandBehind t else beforeOperand c := by
  unfold operandBehind
  rw [List.reverse_concat, List.dropWhile_cons]
  split_ifs <;> rfl

theorem take_succ {s : Text} {i : Nat} {c : CodePoint} (hc : s[i]? = some c) :
    s.take (i + 1) = s.take i ++ [c] := by
  rw [List.take_add_one, hc]
  rfl

theorem operandAt?_eq {s : Text} {i : Nat} (hi : i ≤ s.length) :
    operandAt? s i = some (operandBehind (s.take i)) := by
  induction i with
  | zero => rfl
  | succ i ih =>
    obtain ⟨c, hc, -⟩ := exists_drop_eq_cons hi
    rw [operandAt?, hc, Option.bind_some, take_succ hc, operandBehind_concat, ih (by omega)]
    split_ifs <;> rfl

/-- A string literal with text behind it ends in its quote. -/
theorem exists_concat_of_spanQuoted {q : CodePoint} {s : Text} (h : (spanQuoted q s).2 ≠ []) :
    ∃ t, (spanQuoted q s).1 = t ++ [q] := by
  fun_induction spanQuoted q s with
  | case1 => exact absurd rfl h
  | case2 => exact absurd rfl h
  | case3 c r p ih =>
    obtain ⟨t, ht⟩ := ih h
    exact ⟨.char '\\' :: c :: t, congrArg (.char '\\' :: c :: ·) ht⟩
  | case4 r => exact ⟨[], rfl⟩
  | case5 c r _ _ hc p ih =>
    obtain ⟨t, ht⟩ := ih h
    exact ⟨c :: t, congrArg (c :: ·) ht⟩

/-- A regular-expression literal with text behind it ends in its slash or a flag. -/
theorem exists_concat_of_spanRegex {k : Bool} {s : Text} (h : (spanRegex k s).2 ≠ []) :
    ∃ t c, (spanRegex k s).1 = t ++ [c] ∧ (c = .char '/' ∨ Text.isLetter c = true) := by
  fun_induction spanRegex k s with
  | case1 => exact absurd rfl h
  | case2 => exact absurd rfl h
  | case3 k c r p ih =>
    obtain ⟨t, d, ht, hd⟩ := ih h
    exact ⟨.char '\\' :: c :: t, d, congrArg (.char '\\' :: c :: ·) ht, hd⟩
  | case4 k c r _ _ hc =>
    rcases List.eq_nil_or_concat (r.takeWhile Text.isLetter) with hnil | ⟨t, d, ht⟩
    · exact ⟨[], c, by rw [hnil]; rfl, .inl hc.1⟩
    · have hd : d ∈ r.takeWhile Text.isLetter := by simp [ht]
      exact ⟨c :: t, d, by rw [ht]; simp, .inr (List.mem_takeWhile_imp hd)⟩
  | case5 k c r _ _ hc p ih =>
    obtain ⟨t, d, ht, hd⟩ := ih h
    exact ⟨c :: t, d, congrArg (c :: ·) ht, hd⟩

theorem operandBehind_of_flag {c : CodePoint} (h : c = .char '/' ∨ Text.isLetter c = true)
    (t : Text) : operandBehind (t ++ [c]) = false := by
  rw [operandBehind_concat]
  rcases h with rfl | h
  · rfl
  · have hblank : Text.isBlank c = false := by
      by_contra hb
      have hword := Text.isWord_eq_false_of_isBlank (Bool.not_eq_false _ ▸ hb)
      rw [Text.isWord, Text.isAlphanumeric_of_isLetter h] at hword
      cases hword
    rw [hblank, beforeOperand_of_isLetter h]
    rfl

/-! ## Brackets by position -/

/-- One step in the search for a closing bracket; the state is how many brackets are open, and a
position. -/
def closingStep (s : Text) (a : Int × Nat) : Option ((Int × Nat) ⊕ Option Nat) :=
  if a.2 < s.length then
    s[a.2]?.bind fun c : CodePoint =>
      if isQuote c then (endOfQuoted? s a.2).map fun j => .inl (a.1, j)
      else
        (if c = '/' then operandAt? s a.2 else some false).bind fun isRegex =>
          if isRegex then (endOfRegex? s a.2).map fun j => .inl (a.1, j)
          else if isOpener c then some (.inl (a.1 + 1, a.2 + 1))
          else if isCloser c then
            if a.1 - 1 = 0 then some (.inr (some a.2)) else some (.inl (a.1 - 1, a.2 + 1))
          else some (.inl (a.1, a.2 + 1))
  else some (.inr none)

/-- The position of the bracket that closes the one at `i`, if there is one. -/
def closing? (s : Text) (i : Nat) : Option (Option Nat) :=
  loop? (closingStep s) (s.length + 1) (0, i)

/-- What is left behind the closing bracket. -/
def behind? (depth : Nat) (before : CodePoint) (s : Text) : Option Text :=
  (close? depth before s).map Prod.snd

theorem behind?_cons (depth : Nat) (before c : CodePoint) (r : Text) :
    behind? depth before (c :: r) =
      if isQuote c then behind? depth c (spanQuoted c r).2
      else if c = '/' ∧ beforeOperand before then behind? depth c (spanRegex false r).2
      else if isOpener c then behind? (depth + 1) c r
      else if isCloser c then
        match depth with
        | 0 => some r
        | d + 1 => behind? d c r
      else behind? depth (if Text.isBlank c then before else c) r := by
  have hmap : ∀ (t : Text) (o : Option (Text × Text)),
      (o.map fun p => (t ++ p.1, p.2)).map Prod.snd = o.map Prod.snd := fun t o => by
    rw [Option.map_map]
    rfl
  unfold behind?
  rw [close?.eq_def]
  dsimp only
  split_ifs
  · exact hmap (c :: (spanQuoted c r).1) _
  · exact hmap (c :: (spanRegex false r).1) _
  · exact hmap [c] _
  · cases depth
    · rfl
    · exact hmap [c] _
  · exact hmap [c] _
  · exact hmap [c] _

/-- A result that suits a search that has come to a position with some brackets open: the bracket
lies there or behind, in the text, and right there only if just one is open; and it is the one that
`close?` finds, if the character that this carries agrees with the text in front. -/
structure SuitsClosing (s : Text) (d : Int) (i : Nat) (k? : Option Nat) : Prop where
  bounds : ∀ k ∈ k?, i ≤ k ∧ k < s.length ∧ (k = i → d = 1)
  agrees : ∀ (n : Nat) (b : CodePoint), d = n + 1 →
    (i < s.length → beforeOperand b = operandBehind (s.take i)) →
      behind? n b (s.drop i) = k?.map fun k => s.drop (k + 1)

section Suits

variable {s : Text} {d d' : Int} {i j : Nat} {c : CodePoint} {k? : Option Nat}

theorem SuitsClosing.bounds_of_lt (h : SuitsClosing s d' j k?) (hij : i < j) :
    ∀ k ∈ k?, i ≤ k ∧ k < s.length ∧ (k = i → d = 1) := by
  intro k hk
  obtain ⟨hle, hlt, -⟩ := h.bounds k hk
  exact ⟨by omega, hlt, fun hki => by omega⟩

theorem isBlank_of_delimiter (h : isQuote c = true ∨ isOpener c = true ∨ isCloser c = true) :
    Text.isBlank c = false := by
  simp only [isQuote, isOpener, isCloser, Bool.or_eq_true, decide_eq_true_eq] at h
  rcases h with ((rfl | rfl) | rfl) | ((rfl | rfl) | rfl) | ((rfl | rfl) | rfl) <;> decide

/-- Behind a character that is not blank it is this one that says whether an operand may start. -/
theorem operandBehind_take_succ (hc : s[i]? = some c) (hb : Text.isBlank c = false) :
    operandBehind (s.take (i + 1)) = beforeOperand c := by
  rw [take_succ hc, operandBehind_concat, hb]
  rfl

theorem SuitsClosing.of_quoted (hc : s[i]? = some c) (hq : isQuote c = true)
    (hj : EndsAt s i (spanQuoted c (s.drop (i + 1))).2 j) (h : SuitsClosing s d j k?) :
    SuitsClosing s d i k? := by
  refine ⟨h.bounds_of_lt hj.lt, fun n b hd _ => ?_⟩
  obtain ⟨hi, hdrop⟩ := drop_of_getElem? hc
  rw [hdrop, behind?_cons, if_pos hq, ← hj.rest]
  refine h.agrees n c hd fun hlt => ?_
  obtain ⟨t, ht⟩ := exists_concat_of_spanQuoted (hj.ne_nil hlt)
  rw [hj.take_eq (spanQuoted_append c _), ht, ← List.append_assoc,
    operandBehind_concat, isBlank_of_delimiter (.inl hq)]
  rfl

theorem SuitsClosing.of_regex (hc : s[i]? = some (.char '/'))
    (ho : operandBehind (s.take i) = true)
    (hj : EndsAt s i (spanRegex false (s.drop (i + 1))).2 j) (h : SuitsClosing s d j k?) :
    SuitsClosing s d i k? := by
  refine ⟨h.bounds_of_lt hj.lt, fun n b hd hb => ?_⟩
  obtain ⟨hi, hdrop⟩ := drop_of_getElem? hc
  rw [hdrop, behind?_cons, if_neg (by decide), if_pos ⟨rfl, (hb hi).trans ho⟩, ← hj.rest]
  refine h.agrees n (.char '/') hd fun hlt => ?_
  obtain ⟨t, x, ht, hx⟩ := exists_concat_of_spanRegex (hj.ne_nil hlt)
  rw [hj.take_eq (spanRegex_append false _), ht, ← List.append_assoc,
    operandBehind_of_flag hx]
  rfl

/-- The character at a position, if it opens no literal. -/
structure OpensNothing (s : Text) (i : Nat) (c : CodePoint) : Prop where
  here : s[i]? = some c
  quote : isQuote c = false
  slash : ¬ (c = '/' ∧ operandBehind (s.take i) = true)

theorem OpensNothing.behind?_eq (hc : OpensNothing s i c) {n : Nat} {b : CodePoint}
    (hb : i < s.length → beforeOperand b = operandBehind (s.take i)) :
    behind? n b (s.drop i) =
      if isOpener c then behind? (n + 1) c (s.drop (i + 1))
      else if isCloser c then
        match n with
        | 0 => some (s.drop (i + 1))
        | m + 1 => behind? m c (s.drop (i + 1))
      else behind? n (if Text.isBlank c then b else c) (s.drop (i + 1)) := by
  obtain ⟨hi, hdrop⟩ := drop_of_getElem? hc.here
  rw [hdrop, behind?_cons, if_neg (by simp [hc.quote]), if_neg (by rw [hb hi]; exact hc.slash)]

theorem SuitsClosing.of_opener (hc : OpensNothing s i c) (ho : isOpener c = true)
    (h : SuitsClosing s (d + 1) (i + 1) k?) : SuitsClosing s d i k? := by
  refine ⟨h.bounds_of_lt (Nat.lt_succ_self i), fun n b hd hb => ?_⟩
  rw [hc.behind?_eq hb, if_pos ho]
  refine h.agrees (n + 1) c (by simp [hd]) fun _ => ?_
  exact (operandBehind_take_succ hc.here (isBlank_of_delimiter (.inr (.inl ho)))).symm

theorem SuitsClosing.of_closer (hc : OpensNothing s i c) (ho : isOpener c = false)
    (hx : isCloser c = true) (hd : d ≠ 1) (h : SuitsClosing s (d - 1) (i + 1) k?) :
    SuitsClosing s d i k? := by
  refine ⟨h.bounds_of_lt (Nat.lt_succ_self i), fun n b hn hb => ?_⟩
  obtain ⟨m, rfl⟩ : ∃ m, n = m + 1 := ⟨n - 1, by omega⟩
  rw [hc.behind?_eq hb, if_neg (by simp [ho]), if_pos hx]
  refine h.agrees m c (by simp [hn]) fun _ => ?_
  exact (operandBehind_take_succ hc.here (isBlank_of_delimiter (.inr (.inr hx)))).symm

/-- The search ends at a bracket that closes the last open one. -/
theorem suitsClosing_here (hc : OpensNothing s i c) (ho : isOpener c = false)
    (hx : isCloser c = true) : SuitsClosing s 1 i (some i) := by
  obtain ⟨hi, -⟩ := drop_of_getElem? hc.here
  refine ⟨fun k hk => ?_, fun n b hn hb => ?_⟩
  · obtain rfl : i = k := Option.some.inj hk
    exact ⟨Nat.le_refl i, hi, fun _ => rfl⟩
  · obtain rfl : n = 0 := by omega
    rw [hc.behind?_eq hb, if_neg (by simp [ho]), if_pos hx]
    rfl

theorem SuitsClosing.of_plain (hc : OpensNothing s i c) (ho : isOpener c = false)
    (hx : isCloser c = false) (h : SuitsClosing s d (i + 1) k?) : SuitsClosing s d i k? := by
  refine ⟨h.bounds_of_lt (Nat.lt_succ_self i), fun n b hd hb => ?_⟩
  rw [hc.behind?_eq hb, if_neg (by simp [ho]), if_neg (by simp [hx])]
  refine h.agrees n _ hd fun hlt => ?_
  rw [take_succ hc.here, operandBehind_concat]
  split_ifs
  · exact hb (by omega)
  · rfl

end Suits

theorem closingStep_progresses (s : Text) (a : Int × Nat) :
    Progresses (closingStep s) (s.length - ·.2) (fun a => SuitsClosing s a.1 a.2) a := by
  obtain ⟨d, i⟩ := a
  by_cases hi : i < s.length
  · obtain ⟨c, hc, -⟩ := exists_drop_eq_cons hi
    have hstep : closingStep s (d, i) = _ := if_pos hi
    rw [hc, Option.bind_some] at hstep
    cases hq : isQuote c with
    | true =>
      obtain ⟨j, hj, hends⟩ := exists_endOfQuoted? hc
      rw [hq, if_pos rfl, hj, Option.map_some] at hstep
      exact .next hstep (by have := hends.lt; dsimp only; omega) fun _ h => h.of_quoted hc hq hends
    | false =>
      rw [hq, if_neg Bool.false_ne_true] at hstep
      have hslash : (if c = .char '/' then operandAt? s i else some false)
          = some (decide (c = '/' ∧ operandBehind (s.take i) = true)) := by
        rw [operandAt?_eq (by omega)]
        by_cases hs : c = .char '/' <;> simp [hs]
      rw [hslash, Option.bind_some] at hstep
      by_cases hs : c = '/' ∧ operandBehind (s.take i) = true
      · obtain ⟨j, hj, hends⟩ := exists_endOfRegex? hi
        rw [if_pos (decide_eq_true hs), hj, Option.map_some] at hstep
        refine .next hstep (by have := hends.lt; dsimp only; omega) fun _ h => ?_
        exact h.of_regex (hs.1 ▸ hc) hs.2 hends
      · have hchar : OpensNothing s i c := ⟨hc, hq, hs⟩
        rw [if_neg (by simpa using hs)] at hstep
        cases ho : isOpener c with
        | true =>
          rw [ho, if_pos rfl] at hstep
          exact .next hstep (by dsimp only; omega) fun _ h => h.of_opener hchar ho
        | false =>
          rw [ho, if_neg Bool.false_ne_true] at hstep
          cases hx : isCloser c with
          | true =>
            rw [hx, if_pos rfl] at hstep
            by_cases hd : d = 1
            · subst hd
              exact .done hstep (suitsClosing_here hchar ho hx)
            · rw [if_neg (by dsimp only; omega)] at hstep
              exact .next hstep (by dsimp only; omega) fun _ h => h.of_closer hchar ho hx hd
          | false =>
            rw [hx, if_neg Bool.false_ne_true] at hstep
            exact .next hstep (by dsimp only; omega) fun _ h => h.of_plain hchar ho hx
  · refine .done (r := none) (if_neg hi) ⟨fun k hk => (nomatch hk), fun n b _ _ => ?_⟩
    dsimp only
    rw [List.drop_eq_nil_of_le (by omega), behind?, close?]
    rfl

/-- From wherever the search starts, it ends, and a bracket that it finds lies behind that; from a
bracket it finds the one that `close?` finds. -/
theorem exists_closing?_eq (s : Text) (i : Nat) :
    ∃ k?, closing? s i = some k? ∧ (∀ k ∈ k?, i < k ∧ k < s.length) ∧
      (s[i]? = some (.char '(') →
        behind? 0 '(' (s.drop (i + 1)) = k?.map fun k => s.drop (k + 1)) := by
  obtain ⟨k?, hk?, hsuits⟩ :=
    exists_loop?_eq (closingStep_progresses s) (n := s.length + 1) (a := (0, i)) (by omega)
  refine ⟨k?, hk?, fun k hk => ?_, fun hc => ?_⟩
  · obtain ⟨hle, hlt, hhere⟩ := hsuits.bounds k hk
    dsimp only at hle hhere
    exact ⟨by omega, hlt⟩
  · -- the first step opens the bracket, and with one open both searches agree
    obtain ⟨hi, -⟩ := drop_of_getElem? hc
    have hstep : closingStep s (0, i) = some (.inl (1, i + 1)) := by
      rw [closingStep, if_pos hi, hc]
      rfl
    obtain ⟨j?, hj?, hopen⟩ :=
      exists_loop?_eq (closingStep_progresses s) (n := s.length) (a := (1, i + 1)) (by omega)
    rw [loop?, hstep] at hk?
    obtain rfl : j? = k? := Option.some.inj (hj?.symm.trans hk?)
    refine hopen.agrees 0 '(' rfl fun _ => ?_
    exact (operandBehind_take_succ hc (by decide)).symm

end ValidatorGen.Directive
