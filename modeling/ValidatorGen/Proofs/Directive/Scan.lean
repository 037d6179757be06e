import ValidatorGen.Proofs.Directive.Closing
import ValidatorGen.Proofs.Directive.Split

/-!
# Chains by position

* `exists_callAt?_eq` — one call, up to the position behind it;
* `chainStep_progresses` — the calls that were found, one more at a time;
* `scans_end_in_bounds` — every scanner ends, and none looks outside the text.
-/

namespace ValidatorGen.Directive

open Nesting

/-! ## Chains by position -/

/-- Reads the call whose name stands between two positions, up to the position of what comes behind
it, blanks apart. -/
def namedCall? (s : Text) (start stop : Nat) : Option (Option (Call × Nat)) :=
  let name := dropDots (s.extract start stop)
  if name = [] ∨ s.length ≤ stop then some none
  else
    s[stop]?.bind fun b : CodePoint =>
      if b = '(' then
        (closing? s stop).bind fun
          | none => some none
          | some k =>
            (skip? Text.isBlank s (k + 1)).map fun j => some (⟨name, s.extract start (k + 1)⟩, j)
      else some none

/-- Reads the call at a position, its leading dot included. -/
def callAt? (s : Text) (i : Nat) : Option (Option (Call × Nat)) :=
  s[i]?.bind fun c : CodePoint =>
    if c = '.' then (skip? isNameChar s (i + 1)).bind fun stop => namedCall? s (i + 1) stop
    else some none

/-- One call more; the state is a position, and the calls up to there. -/
def chainStep (s : Text) (a : Nat × List Call) : Option ((Nat × List Call) ⊕ List Call) :=
  if a.1 < s.length then
    (callAt? s a.1).map fun
      | none => .inr a.2
      | some (c, j) => .inl (j, a.2 ++ [c])
  else some (.inr a.2)

/-- Splits a chain by position. -/
def scanChain? (chain : Text) : Option (List Call) :=
  let s := Text.trim chain
  loop? (chainStep s) (s.length + 1) (0, [])

theorem extract_of_append {s t u : Text} {i j : Nat} (h : t ++ u = s.drop i) (hij : i ≤ j)
    (hu : s.drop j = u) : s.extract i j = t := by
  refine take_of_append h ?_
  rw [List.drop_drop, Nat.add_sub_cancel' hij, hu]

theorem extract_skip (p : CodePoint → Bool) (s : Text) (i : Nat) :
    s.extract i (i + ((s.drop i).takeWhile p).length) = (s.drop i).takeWhile p :=
  extract_of_append List.takeWhile_append_dropWhile (Nat.le_add_right _ _) (drop_skip p s i)

/-- What is found at a position is what `call?` reads off the rest, and goes on behind it. -/
structure SuitsCall (s : Text) (i : Nat) (o : Option (Call × Nat)) : Prop where
  bounds : ∀ p ∈ o, i < p.2 ∧ p.2 ≤ s.length
  agrees : call? (s.drop i) = o.map fun p => (p.1, s.drop p.2)

theorem suitsCall_none {s : Text} {i : Nat} (h : call? (s.drop i) = none) : SuitsCall s i none :=
  ⟨fun _ hp => (nomatch hp), h⟩

theorem call?_of_no_dot {c : CodePoint} (h : c ≠ .char '.') (t : Text) :
    call? (c :: t) = none := by
  rw [call?]
  exact fun u hu => h (List.cons.inj hu).1

theorem call?_of_no_name {t : Text} (h : dropDots (t.takeWhile isNameChar) = []) :
    call? (.char '.' :: t) = none := by
  rw [call?, h]

theorem call?_of_no_bracket {t : Text} (h : ∀ r, t.dropWhile isNameChar ≠ .char '(' :: r) :
    call? (.char '.' :: t) = none := by
  rw [call?]
  split
  · rename_i r _ hr
    exact absurd hr (h r)
  · rfl

theorem call?_of_bracket {t r : Text} (hname : dropDots (t.takeWhile isNameChar) ≠ [])
    (hr : t.dropWhile isNameChar = .char '(' :: r) :
    call? (.char '.' :: t) = (close? 0 '(' r).map fun p =>
      (⟨dropDots (t.takeWhile isNameChar), t.takeWhile isNameChar ++ "(" ++ p.1⟩,
        p.2.dropWhile Text.isBlank) := by
  obtain ⟨n, ns, hn⟩ := List.exists_cons_of_ne_nil hname
  rw [call?, hr, hn]
  rfl

/-- The bracket that closes the arguments has been found at `k`. -/
theorem suitsCall_some {s t u : Text} {i stop k : Nat}
    (hdot : s.drop i = .char '.' :: s.drop (i + 1))
    (hname : dropDots ((s.drop (i + 1)).takeWhile isNameChar) ≠ [])
    (hstop : (s.drop (i + 1)).dropWhile isNameChar = .char '(' :: s.drop (stop + 1))
    (hclose : close? 0 '(' (s.drop (stop + 1)) = some (t, u)) (hu : s.drop (k + 1) = u)
    (hik : i < k) (hk : k < s.length) :
    SuitsCall s i (some (⟨dropDots ((s.drop (i + 1)).takeWhile isNameChar),
      s.extract (i + 1) (k + 1)⟩, k + 1 + ((s.drop (k + 1)).takeWhile Text.isBlank).length)) := by
  refine ⟨?_, ?_⟩
  · rintro p ⟨rfl⟩
    exact ⟨by dsimp only; omega, skip_le hk⟩
  · have hcut : (s.drop (i + 1)).takeWhile isNameChar ++ "(" ++ t ++ u = s.drop (i + 1) := by
      have hbody : t ++ u = s.drop (stop + 1) := close?_append hclose
      conv_rhs => rw [← List.takeWhile_append_dropWhile (p := isNameChar) (l := s.drop (i + 1))]
      rw [hstop, ← hbody, List.append_assoc, List.append_assoc]
      rfl
    have htext := extract_of_append hcut (by omega) hu
    rw [hdot, call?_of_bracket hname hstop, hclose, Option.map_some, Option.map_some, htext,
      drop_skip, hu]

theorem exists_namedCall?_eq {s : Text} {i : Nat} (hdot : s.drop i = .char '.' :: s.drop (i + 1)) :
    ∃ o, namedCall? s (i + 1) (i + 1 + ((s.drop (i + 1)).takeWhile isNameChar).length) = some o ∧
      SuitsCall s i o := by
  generalize hstop : i + 1 + ((s.drop (i + 1)).takeWhile isNameChar).length = stop
  have hraw : s.extract (i + 1) stop = (s.drop (i + 1)).takeWhile isNameChar := by
    rw [← hstop, extract_skip]
  have hrest : (s.drop (i + 1)).dropWhile isNameChar = s.drop stop := by
    rw [← hstop, drop_skip]
  unfold namedCall?
  rw [hraw]
  by_cases hname : dropDots ((s.drop (i + 1)).takeWhile isNameChar) = []
  · refine ⟨none, if_pos (.inl hname), suitsCall_none ?_⟩
    rw [hdot, call?_of_no_name hname]
  by_cases hend : s.length ≤ stop
  · refine ⟨none, if_pos (.inr hend), suitsCall_none ?_⟩
    rw [hdot, call?_of_no_bracket fun r hr => ?_]
    rw [hrest, List.drop_eq_nil_of_le hend] at hr
    cases hr
  obtain ⟨b, hb, hbdrop⟩ := exists_drop_eq_cons (Nat.lt_of_not_le hend)
  dsimp only
  rw [if_neg (not_or.2 ⟨hname, hend⟩), hb, Option.bind_some]
  by_cases hbracket : b = .char '('
  · subst hbracket
    obtain ⟨k?, hk?, hbounds, hbehind⟩ := exists_closing?_eq s stop
    specialize hbehind hb
    rw [if_pos rfl, hk?, Option.bind_some]
    cases k? with
    | none =>
      have hclose := Option.map_eq_none_iff.1 hbehind
      refine ⟨none, rfl, suitsCall_none ?_⟩
      rw [hdot, call?_of_bracket hname (hrest.trans hbdrop), hclose, Option.map_none]
    | some k =>
      obtain ⟨hlt, hk⟩ := hbounds k rfl
      obtain ⟨⟨t, u⟩, hclose, hu⟩ := Option.map_eq_some_iff.1 hbehind
      simp only [skip?_eq, Option.map_some]
      exact ⟨_, rfl, suitsCall_some hdot hname (hrest.trans hbdrop) hclose hu.symm (by omega) hk⟩
  · refine ⟨none, if_neg hbracket, suitsCall_none ?_⟩
    rw [hdot, call?_of_no_bracket fun r hr => ?_]
    rw [hrest, hbdrop] at hr
    exact hbracket (List.cons.inj hr).1

theorem exists_callAt?_eq {s : Text} {i : Nat} (hi : i < s.length) :
    ∃ o, callAt? s i = some o ∧ SuitsCall s i o := by
  obtain ⟨c, hc, hdrop⟩ := exists_drop_eq_cons hi
  rw [callAt?, hc, Option.bind_some]
  by_cases hdot : c = .char '.'
  · subst hdot
    rw [if_pos rfl, skip?_eq, Option.bind_some]
    exact exists_namedCall?_eq hdrop
  · refine ⟨none, if_neg hdot, suitsCall_none ?_⟩
    rw [hdrop, call?_of_no_dot hdot]

/-- The calls that were found, and those that are still to be read. -/
theorem chainStep_progresses (s : Text) (a : Nat × List Call) :
    Progresses (chainStep s) (s.length - ·.1) (fun a cs => cs = a.2 ++ calls (s.drop a.1)) a := by
  obtain ⟨i, cs⟩ := a
  by_cases hi : i < s.length
  · obtain ⟨o, ho, hsuits⟩ := exists_callAt?_eq hi
    have hstep : chainStep s (i, cs) = _ := if_pos hi
    rw [ho, Option.map_some] at hstep
    cases o with
    | none =>
      refine .done hstep ?_
      dsimp only
      rw [calls_of_call?_eq_none hsuits.agrees, List.append_nil]
    | some p =>
      obtain ⟨c, j⟩ := p
      obtain ⟨hlt, -⟩ := hsuits.bounds _ rfl
      dsimp only at hlt
      refine .next hstep (by dsimp only; omega) fun r hr => ?_
      dsimp only at hr ⊢
      rw [hr, calls_of_call? hsuits.agrees, List.append_assoc]
      rfl
  · refine .done (r := cs) (if_neg hi) ?_
    dsimp only
    rw [List.drop_eq_nil_of_le (by omega), calls_of_call?_eq_none rfl, List.append_nil]

theorem scanChain?_eq (chain : Text) : scanChain? chain = some (splitChain chain) := by
  obtain ⟨cs, hcs, rfl⟩ := exists_loop?_eq (chainStep_progresses (Text.trim chain))
    (n := (Text.trim chain).length + 1) (a := (0, [])) (by omega)
  exact hcs

/-- **Every scanner ends, and none looks outside the text.**  A literal ends behind the position at
which it opens and not behind the end of the text, whether it is closed or not; a search for the
bracket that closes another one fails or finds a bracket behind that, in the text; and so every
chain, well formed or not, is split.  No loop takes more steps than the text has characters, and
one; and all of them stop where `spanQuoted`, `spanRegex`, `close?` and `splitChain` do. -/
theorem scans_end_in_bounds (s : Text) :
    (∀ (i : Nat) (hi : i < s.length), ∃ j, endOfQuoted? s i = some j ∧
      EndsAt s i (spanQuoted s[i] (s.drop (i + 1))).2 j) ∧
    (∀ i < s.length, ∃ j, endOfRegex? s i = some j ∧
      EndsAt s i (spanRegex false (s.drop (i + 1))).2 j) ∧
    (∀ i, ∃ k?, closing? s i = some k? ∧ (∀ k ∈ k?, i < k ∧ k < s.length) ∧
      (s[i]? = some (.char '(') →
        behind? 0 '(' (s.drop (i + 1)) = k?.map fun k => s.drop (k + 1))) ∧
    scanChain? s = some (splitChain s) := by
  refine ⟨fun i hi => ?_, fun i hi => exists_endOfRegex? hi, fun i => ?_, scanChain?_eq s⟩
  · exact exists_endOfQuoted? (List.getElem?_eq_getElem hi)
  · exact exists_closing?_eq s i

/-- The literal has no end, the backslash at the end of the text none behind it. -/
theorem scans_end_in_bounds_backslash :
    let s : Text := ".a(\"x\\"
    (3 < s.length ∧ ∃ j, endOfQuoted? s 3 = some j ∧ EndsAt s 3 [] j) ∧
      closing? s 2 = some none ∧ scanChain? s = some [] := by
  intro s
  obtain ⟨hquoted, -, hclosing, hchain⟩ := scans_end_in_bounds s
  refine ⟨⟨by decide, hquoted 3 (by decide)⟩, ?_, ?_⟩
  · obtain ⟨k?, hk?, -, hbehind⟩ := hclosing 2
    have hnone : behind? 0 '(' (s.drop 3) = none := by decide +kernel
    have hk : k? = none := Option.map_eq_none_iff.1 ((hbehind rfl).symm.trans hnone)
    rw [hk?, hk]
  · rw [hchain]
    decide +kernel

end ValidatorGen.Directive
