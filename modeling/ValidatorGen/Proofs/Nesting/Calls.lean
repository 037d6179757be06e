import ValidatorGen.Directive
import ValidatorGen.Proofs.Nesting.Reader

/-!
# Calls of a documentation

What the calls of a documentation look like to a reader.  `close?` takes any closing bracket for
any other, so a call closes the brackets that it opens and ends its literals, but not always kind
by kind.

* `closesOneMore_of_close?` — what `close?` passes over closes the brackets that are open and one
  more;
* `isCall_of_mem_calls` — every call is a name, a bracket, such arguments, and a closing bracket.
-/

namespace ValidatorGen.Nesting

open Directive

variable {fits : CodePoint → CodePoint → Bool}

/-! ## Literals -/

theorem ne_backslash_of_isQuote {q : CodePoint} (h : isQuote q = true) : q ≠ '\\' := by
  rintro rfl
  exact absurd h (by decide)

/-- A string literal with text behind it has ended. -/
theorem read_spanQuoted {q : CodePoint} {s : Text} (hq : isQuote q = true) (bs : List CodePoint)
    (h : (spanQuoted q s).2 ≠ []) :
    read fits ⟨.string q, bs⟩ (spanQuoted q s).1 = some ⟨.code q, bs⟩ := by
  fun_induction spanQuoted q s with
  | case1 => exact absurd rfl h
  | case2 => exact absurd rfl h
  | case3 c r p ih => exact ih h
  | case4 r => simp [read_cons, step, ne_backslash_of_isQuote hq]
  | case5 c r h1 h2 hc p ih =>
    have hb : c ≠ '\\' := by
      rintro rfl
      cases r with
      | nil => exact h1 rfl rfl
      | cons d r => exact h2 d r rfl rfl
    rw [read_cons]
    simp only [step, hb, hc, if_false, Option.bind_some]
    exact ih h

/-! ## Letters behind a regular expression -/

theorem isPlain_of_isLetter {c : CodePoint} (h : Text.isLetter c = true) : isPlain c = true :=
  isPlain_of_class h (by decide)

/-- No operand starts behind a letter. -/
theorem beforeOperand_of_isLetter {c : CodePoint} (h : Text.isLetter c = true) :
    beforeOperand c = false := by
  have hall : (['(', '[', '{', ',', '=', ':', '!', '&', '|', '?', ';', '>'].all
      fun d : Char => !Text.isLetter d) = true := by decide
  have hd : ∀ d : Char, d ∈ ['(', '[', '{', ',', '=', ':', '!', '&', '|', '?', ';', '>'] →
      c ≠ d := fun d hd => ne_char h (by simpa using List.all_eq_true.1 hall d hd)
  simp only [List.forall_mem_cons] at hd
  obtain ⟨h1, h2, h3, h4, h5, h6, h7, h8, h9, h10, h11, h12, -⟩ := hd
  simp [beforeOperand, isOpener, h1, h2, h3, h4, h5, h6, h7, h8, h9, h10, h11, h12]

/-- A regular-expression literal with text behind it has ended, and no operand starts there. -/
theorem read_spanRegex (fits : CodePoint → CodePoint → Bool) {k : Bool} {s : Text}
    (bs : List CodePoint) (h : (spanRegex k s).2 ≠ []) :
    ∃ b, read fits ⟨.regex k, bs⟩ (spanRegex k s).1 = some ⟨.code b, bs⟩
      ∧ beforeOperand b = false := by
  fun_induction spanRegex k s with
  | case1 => exact absurd rfl h
  | case2 => exact absurd rfl h
  | case3 k c r p ih => exact ih h
  | case4 k c r h1 h2 hc =>
    obtain ⟨rfl, rfl⟩ := hc
    have hl : (r.takeWhile Text.isLetter).all Text.isLetter = true := List.all_takeWhile
    obtain ⟨b, hr, hb⟩ := read_of_isPlain fits (s := r.takeWhile Text.isLetter)
      (List.all_eq_true.2 fun c hc => isPlain_of_isLetter (List.all_eq_true.1 hl c hc)) '/' bs
    refine ⟨b, ?_, ?_⟩
    · rw [← hr]
      simp [read_cons, step]
    · rcases hb with rfl | hb
      · decide
      · exact beforeOperand_of_isLetter (List.all_eq_true.1 hl b hb)
  | case5 k c r h1 h2 hc p ih =>
    have hb : c ≠ '\\' := by
      rintro rfl
      cases r with
      | nil => exact h1 rfl rfl
      | cons d r => exact h2 d r rfl rfl
    rw [read_cons]
    simp only [step, hb, hc, if_false, Option.bind_some]
    exact ih h

/-! ## What stands between the brackets of a call -/

theorem beforeOperand_slash : beforeOperand '/' = false := by decide

theorem ne_nil_of_close? {depth : Nat} {before : CodePoint} {s t u : Text}
    (h : close? depth before s = some (t, u)) : s ≠ [] := by
  rintro rfl
  simp [close?] at h

/-- Kinds apart, `t` closes the brackets that are open and, with its last character, one more. -/
def ClosesOneMore (r : Reader) (t : Text) : Prop :=
  ∃ t' x b, t = t' ++ [x] ∧ isCloser x = true ∧ read anyKind r t' = some ⟨.code b, []⟩

theorem ClosesOneMore.append {r r' : Reader} {s t : Text} (h : ClosesOneMore r' t)
    (hs : read anyKind r s = some r') : ClosesOneMore r (s ++ t) := by
  obtain ⟨t', x, b, rfl, hx, ht⟩ := h
  refine ⟨s ++ t', x, b, (List.append_assoc ..).symm, hx, ?_⟩
  rw [read_append_of_eq hs]
  exact ht

theorem ClosesOneMore.cons {r r' : Reader} {c : CodePoint} {t : Text} (h : ClosesOneMore r' t)
    (hc : step anyKind r c = some r') : ClosesOneMore r (c :: t) :=
  h.append (s := [c]) (by rw [read_cons, hc]; rfl)

/-- The induction is on `close?`; `b` and `before` need only agree on whether an operand may start
behind them, since flags stand between a regular expression and what follows it. -/
theorem closesOneMore_of_close? {depth : Nat} {before : CodePoint} {s t u : Text}
    (h : close? depth before s = some (t, u)) {b : CodePoint} (bs : List CodePoint)
    (hb : beforeOperand b = beforeOperand before) (hbs : bs.length = depth) :
    ClosesOneMore ⟨.code b, bs⟩ t := by
  fun_induction close? depth before s generalizing t u b bs with
  | case1 => simp at h
  | case2 d before c r hq ih =>
    obtain ⟨p, hp, e⟩ := Option.map_eq_some_iff.1 h
    cases e
    have hs : step anyKind ⟨.code b, bs⟩ c = some ⟨.string c, bs⟩ := by simp [step, codeStep, hq]
    exact ((ih hp bs rfl hbs).append (read_spanQuoted hq bs (ne_nil_of_close? hp))).cons hs
  | case3 d before c r hq hc ih =>
    obtain ⟨p, hp, e⟩ := Option.map_eq_some_iff.1 h
    cases e
    obtain ⟨rfl, ho⟩ := hc
    obtain ⟨b', hr, hb'⟩ := read_spanRegex anyKind bs (ne_nil_of_close? hp)
    have hs : step anyKind ⟨.code b, bs⟩ '/' = some ⟨.regex false, bs⟩ := by
      simp [step, codeStep, hq, hb, ho]
    exact ((ih hp bs (hb'.trans beforeOperand_slash.symm) hbs).append hr).cons hs
  | case4 d before c r hq hc ho ih =>
    obtain ⟨p, hp, e⟩ := Option.map_eq_some_iff.1 h
    cases e
    have hs : step anyKind ⟨.code b, bs⟩ c = some ⟨.code c, c :: bs⟩ := by
      simp [step, codeStep, hq, hb, hc, ho]
    exact (ih hp (c :: bs) rfl (by simp [hbs])).cons hs
  | case5 before c r hq hc ho hx =>
    cases h
    have e : bs = [] := List.length_eq_zero_iff.1 hbs
    subst e
    exact ⟨[], c, b, rfl, hx, rfl⟩
  | case6 before c r hq hc ho hx d ih =>
    obtain ⟨p, hp, e⟩ := Option.map_eq_some_iff.1 h
    cases e
    obtain ⟨o, bs, rfl⟩ := List.exists_cons_of_length_eq_add_one hbs
    have hs : step anyKind ⟨.code b, o :: bs⟩ c = some ⟨.code c, bs⟩ := by
      simp [step, codeStep, hq, hb, hc, ho, hx, anyKind]
    exact (ih hp bs rfl (by simpa using hbs)).cons hs
  | case7 d before c r hq hc ho hx ih =>
    obtain ⟨p, hp, e⟩ := Option.map_eq_some_iff.1 h
    cases e
    have hs : step anyKind ⟨.code b, bs⟩ c
        = some ⟨.code (if Text.isBlank c then b else c), bs⟩ := by
      simp [step, codeStep, hq, hb, hc, ho, hx]
    exact (ih hp bs (by split_ifs <;> simp [hb]) hbs).cons hs

/-! ## The text of a call -/

/-- A call: a name with dots behind it or not, a bracket, arguments that close their own brackets
and end their literals, kinds apart, and a closing bracket. -/
structure IsCall (c : Call) (dots args : Text) (x : CodePoint) : Prop where
  text : c.text = c.name ++ dots ++ "(" ++ args ++ [x]
  name : (c.name ++ dots).all isNameChar = true
  dots : dots.all (·.is '.') = true
  closer : isCloser x = true
  args : ∃ b, read anyKind .start args = some ⟨.code b, []⟩

theorem isCall_of_call? {s r : Text} {c : Call} (h : call? s = some (c, r)) :
    ∃ dots args x, IsCall c dots args x := by
  unfold call? at h
  split at h
  · rename_i s
    dsimp only at h
    split at h
    · rename_i n0 n u hn hd
      obtain ⟨⟨t, v⟩, hp, e⟩ := Option.map_eq_some_iff.1 h
      cases e
      obtain ⟨args, x, b, rfl, hx, ha⟩ := closesOneMore_of_close? hp (b := '(') [] rfl rfl
      have hraw : s.takeWhile isNameChar = dropDots (s.takeWhile isNameChar)
          ++ ((s.takeWhile isNameChar).reverse.takeWhile (·.is '.')).reverse := by
        rw [dropDots, ← List.reverse_append, List.takeWhile_append_dropWhile, List.reverse_reverse]
      refine ⟨((s.takeWhile isNameChar).reverse.takeWhile (·.is '.')).reverse, args, x, ?_, ?_, ?_,
        hx, b, ha⟩
      · simp only [← hraw, List.append_assoc]
      · rw [← hraw]
        exact List.all_takeWhile
      · rw [List.all_reverse]
        exact List.all_takeWhile
    · simp at h
  · simp at h

theorem isCall_of_mem_calls {s : Text} {c : Call} (h : c ∈ calls s) :
    ∃ dots args x, IsCall c dots args x := by
  fun_induction calls s with
  | case1 => simp at h
  | case2 s c' r hc _ ih =>
    rcases List.mem_cons.1 h with rfl | h
    · exact isCall_of_call? hc
    · exact ih h

end ValidatorGen.Nesting
