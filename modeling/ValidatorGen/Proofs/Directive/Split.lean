import ValidatorGen.Documentation
import ValidatorGen.Proofs.Directive.Chain

/-!
# What splitting a chain gives

Any text can be split, well-formed or not.

* `exists_gap_of_call?` — reading a call cuts it off the front, with the blanks behind it;
* `splitChain_lossless` — calls, gaps and rest make up the text, and no call starts at the rest;
* `isName_iff` — a name is made of name characters, without an empty word between its dots;
* `customExpression_of_isCall` — what is cut out of a call of `custom`;
* `isPlainCall_of_mem_splitChain_iff` — a call starts with its name, and a custom schema is what
  stands between the brackets, exactly if no word in front of the bracket is empty.
-/

namespace ValidatorGen.Directive

open Nesting

/-! ## Calls, gaps and the rest -/

/-- Each call behind a dot, and what stands between it and the next. -/
def spread (ps : List (Call × Text)) : Text := ps.flatMap fun p => "." ++ (p.1.text ++ p.2)

/-- A call that can be read starts here: a name, and arguments between brackets. -/
def StartsCall (s : Text) : Prop :=
  ∃ n t r, IsName n ∧ IsWellNested t ∧ s = "." ++ (written (n, t) ++ r)

theorem call?_isSome_of_startsCall {s : Text} (h : StartsCall s) : (call? s).isSome = true := by
  obtain ⟨n, t, r, hn, ht, rfl⟩ := h
  have hcall : call? ("." ++ (written (n, t) ++ r)) = _ := call?_written hn ht r
  rw [hcall]
  rfl

/-- A call is read off the start of the text, with the blanks behind it. -/
theorem exists_gap_of_call? {s r : Text} {c : Call} (h : call? s = some (c, r)) :
    ∃ gap, Text.isBlankText gap = true ∧ s = "." ++ (c.text ++ (gap ++ r)) ∧
      Text.trimStart r = r := by
  unfold call? at h
  split at h
  · rename_i s
    dsimp only at h
    split at h
    · rename_i n0 n u hn hd
      obtain ⟨⟨t, v⟩, hp, e⟩ := Option.map_eq_some_iff.1 h
      cases e
      have hbody : t ++ v = u := close?_append hp
      have hs : s = s.takeWhile isNameChar ++ .char '(' :: (t ++ v) := by
        rw [hbody, ← hd, List.takeWhile_append_dropWhile]
      refine ⟨v.takeWhile Text.isBlank, List.all_takeWhile, ?_, Text.trimStart_trimStart v⟩
      have hcut : s = s.takeWhile isNameChar ++ "(" ++ t
          ++ (v.takeWhile Text.isBlank ++ v.dropWhile Text.isBlank) := by
        rw [List.takeWhile_append_dropWhile, List.append_assoc, List.append_assoc]
        exact hs
      exact congrArg (CodePoint.char '.' :: ·) hcut
    · simp at h
  · simp at h

theorem calls_of_call?_eq_none {s : Text} (h : call? s = none) : calls s = [] := by
  rw [calls]
  split
  · rfl
  · rename_i hsome
    rw [h] at hsome
    cases hsome

/-- The induction is on `calls`: each step takes one call and its gap, and the rest starts with no
blank, since the blanks are in the gap. -/
theorem exists_spread_calls {s : Text} (hs : Text.trimStart s = s) :
    ∃ ps rest, ps.map Prod.fst = calls s ∧ (∀ p ∈ ps, Text.isBlankText p.2 = true) ∧
      s = spread ps ++ rest ∧ call? rest = none ∧ Text.trimStart rest = rest := by
  fun_induction calls s with
  | case1 s hnone => exact ⟨[], s, rfl, by simp, rfl, hnone, hs⟩
  | case2 s c r hc _ ih =>
    obtain ⟨gap, hgap, hcut, hr⟩ := exists_gap_of_call? hc
    obtain ⟨ps, rest, hps, hblank, hrest, hnone, hstart⟩ := ih hr
    refine ⟨(c, gap) :: ps, rest, ?_, ?_, ?_, hnone, hstart⟩
    · rw [List.map_cons, hps]
    · exact List.forall_mem_cons.2 ⟨hgap, hblank⟩
    · have hspread : spread ((c, gap) :: ps) = "." ++ (c.text ++ gap) ++ spread ps :=
        List.flatMap_cons
      rw [hcut, hrest, hspread]
      simp only [List.append_assoc]

/-- **Splitting loses nothing and stops late.**  Calls and the blanks behind them, in order, make up
the text without the blanks around it, up to a rest of which splitting makes no call, and at which
none starts. -/
theorem splitChain_lossless (s : Text) :
    ∃ ps rest, ps.map Prod.fst = splitChain s ∧ (∀ p ∈ ps, Text.isBlankText p.2 = true) ∧
      Text.trim s = spread ps ++ rest ∧ splitChain rest = [] ∧ ¬ StartsCall rest := by
  obtain ⟨ps, rest, hps, hblank, hcut, hnone, hstart⟩ :=
    exists_spread_calls (Text.trimStart_trim s)
  have hsuffix : rest <:+ Text.trim s := ⟨spread ps, hcut.symm⟩
  have htrim : Text.trim rest = rest := by
    rw [Text.trim, hstart]
    exact Text.trimEnd_of_suffix hsuffix (Text.trimEnd_trimEnd _)
  refine ⟨ps, rest, hps, hblank, hcut, ?_, ?_⟩
  · rw [splitChain, htrim]
    exact calls_of_call?_eq_none hnone
  · intro hcall
    have hsome := call?_isSome_of_startsCall hcall
    rw [hnone] at hsome
    cases hsome

/-- The rest starts at a dot whose name has no bracket. -/
example : (splitChain " .trim()  .max(9).a b(1) ").map Call.text
    = [("trim()" : Text), "max(9)"] := by
  decide +kernel

/-! ## What a call is made of -/

/-- The text in front of the bracket. -/
def Call.front (c : Call) : Text := c.text.takeWhile isNameChar

/-- No dot stands at either end, and no two stand side by side. -/
def HasNoEmptyWord (s : Text) : Prop := [] ∉ Text.splitOn '.' s

instance (s : Text) : Decidable (HasNoEmptyWord s) :=
  inferInstanceAs (Decidable ([] ∉ Text.splitOn '.' s))

/-- The text is the name, and behind it, between brackets, the arguments. -/
def IsPlainCall (c : Call) : Prop :=
  IsName c.name ∧ ∃ args x, isCloser x = true ∧ c.text = c.name ++ "(" ++ args ++ [x]

theorem isNameLetter_iff {c : CodePoint} :
    isNameLetter c = true ↔ isNameChar c = true ∧ c ≠ .char '.' := by
  have hdot : isNameLetter (.char '.') = false := by decide
  constructor
  · intro h
    refine ⟨isNameChar_of_isNameLetter h, ?_⟩
    rintro rfl
    rw [hdot] at h
    cases h
  · rintro ⟨h, hne⟩
    unfold isNameChar at h
    simpa [isNameLetter, hne] using h

theorem isName_iff {s : Text} :
    IsName s ↔ (∀ c ∈ s, isNameChar c = true) ∧ HasNoEmptyWord s := by
  constructor
  · intro h
    refine ⟨h.exists_eq_append.1, ?_⟩
    obtain ⟨ws, hne, hws, rfl⟩ := h
    have hdot : ∀ w ∈ ws, .char '.' ∉ w := fun w hw hc =>
      (isNameLetter_iff.1 (List.all_eq_true.1 (hws w hw).2 _ hc)).2 rfl
    have hsplit : Text.splitOn '.' (Text.join "." ws) = ws := Text.splitOn_join hdot hne
    rw [HasNoEmptyWord, hsplit]
    exact fun hnil => (hws [] hnil).1 rfl
  · rintro ⟨hchars, hwords⟩
    refine ⟨Text.splitOn '.' s, Text.splitOn_ne_nil _ s, fun w hw => ⟨?_, ?_⟩,
      (Text.join_splitOn '.' s).symm⟩
    · rintro rfl
      exact hwords hw
    · refine List.all_eq_true.2 fun c hc => ?_
      obtain ⟨hmem, hne⟩ := Text.of_mem_splitOn hw hc
      exact isNameLetter_iff.2 ⟨hchars c hmem, hne⟩

/-! ### The text in front of the bracket -/

/-- Whatever is cut off there, the text in front of the bracket stays the same. -/
theorem front_eq {c : Call} {raw t : Text} (hraw : ∀ d ∈ raw, isNameChar d = true)
    (h : c.text = raw ++ "(" ++ t) : c.front = raw := by
  have hbracket : ∀ d ∈ (("(" : Text) ++ t).head?, isNameChar d = false := by
    rintro d ⟨⟩
    decide
  rw [Call.front, h, List.append_assoc]
  exact takeWhile_append_stop hraw hbracket

section

variable {c : Call} {dots args : Text} {x : CodePoint}

theorem front_of_isCall (h : IsCall c dots args x) : c.front = c.name ++ dots := by
  refine front_eq (List.all_eq_true.1 h.name) (t := args ++ [x]) ?_
  rw [h.text, List.append_assoc _ args]

theorem text_of_isCall (h : IsCall c dots args x) : c.text = c.front ++ "(" ++ args ++ [x] := by
  rw [front_of_isCall h, h.text]

/-- A name does not end in a dot. -/
theorem eq_nil_of_isName_append {n : Text} (h : IsName (n ++ dots))
    (hdots : dots.all (·.is '.') = true) : dots = [] := by
  obtain ⟨-, t, d, ht, hd⟩ := h.exists_eq_append
  rcases List.eq_nil_or_concat dots with rfl | ⟨ds, y, rfl⟩
  · rfl
  exfalso
  rw [List.concat_eq_append, ← List.append_assoc] at ht
  have hy : y = d := by simpa using (List.append_inj' ht rfl).2
  have hdot : y = .char '.' := by simpa [CodePoint.is] using List.all_eq_true.1 hdots y (by simp)
  exact (isNameLetter_iff.1 hd).2 (hy ▸ hdot)

theorem isPlainCall_iff (h : IsCall c dots args x) : IsPlainCall c ↔ HasNoEmptyWord c.front := by
  constructor
  · rintro ⟨hname, args', x', -, ht⟩
    rw [List.append_assoc] at ht
    rw [front_eq hname.exists_eq_append.1 ht]
    exact (isName_iff.1 hname).2
  · intro hwords
    have hname : IsName (c.name ++ dots) :=
      isName_iff.2 ⟨List.all_eq_true.1 h.name, front_of_isCall h ▸ hwords⟩
    have hdots : dots = [] := eq_nil_of_isName_append hname h.dots
    subst hdots
    rw [List.append_nil] at hname
    refine ⟨hname, args, x, h.closer, ?_⟩
    rw [h.text, List.append_nil]

/-! ### Custom schemas -/

/-- With dots in front of the bracket, all but one of them and the bracket come along. -/
theorem customExpression_of_isCall (h : IsCall c dots args x) (hn : c.name = "custom") :
    customExpression c.text
      = if dots = [] then Text.trim args else dots.tail ++ "(" ++ Text.trimEnd args := by
  have ht : c.text = ("custom" : Text) ++ (dots ++ "(" ++ args ++ [x]) := by
    rw [h.text, hn]
    simp only [List.append_assoc]
  have hexpression : customExpression c.text
      = Text.trim ((dots ++ "(" ++ args ++ [x]).drop 1).dropLast := by
    rw [ht]
    rfl
  rw [hexpression]
  cases dots with
  | nil =>
    show Text.trim (args ++ [x]).dropLast = Text.trim args
    rw [List.dropLast_concat]
  | cons d ds =>
    show Text.trim (ds ++ "(" ++ args ++ [x]).dropLast = ds ++ "(" ++ Text.trimEnd args
    have hdot : ∀ y ∈ ds, y = .char '.' := fun y hy => by
      simpa [CodePoint.is] using List.all_eq_true.1 h.dots y (List.mem_cons_of_mem d hy)
    have hstart : Text.trimStart (ds ++ "(" ++ args) = ds ++ "(" ++ args := by
      cases ds with
      | nil => exact Text.trimStart_cons_of_not_isBlank (by decide)
      | cons y ds =>
        have hy : Text.isBlank y = false := by
          rw [hdot y List.mem_cons_self]
          decide
        exact Text.trimStart_cons_of_not_isBlank hy
    rw [List.dropLast_concat, Text.trim, hstart, List.append_assoc, List.append_assoc]
    exact Text.trimEnd_append_cons (by decide) ds args

/-- The expression is the trimmed arguments exactly if the name has no dots behind it. -/
theorem customExpression_eq_trim_iff (h : IsCall c dots args x) (hn : c.name = "custom") :
    customExpression c.text = Text.trim args ↔ HasNoEmptyWord c.front := by
  rw [front_of_isCall h, hn, customExpression_of_isCall h hn]
  split_ifs with hdots
  · subst hdots
    exact iff_of_true rfl (by decide)
  · refine iff_of_false (fun he => ?_) fun hwords => hdots ?_
    · -- the bracket alone makes the expression longer than the arguments
      have hlen := (Text.trim_suffix_trimEnd args).length_le
      rw [← he] at hlen
      simp [Text.ofString, Text.ofChars] at hlen
      omega
    · have hchars : ∀ d ∈ ("custom" : Text) ++ dots, isNameChar d = true := fun d hd =>
        List.all_eq_true.1 (hn ▸ h.name) d hd
      exact eq_nil_of_isName_append (isName_iff.2 ⟨hchars, hwords⟩) h.dots

end

/-- Every custom schema comes from a call of `custom` in a line with a chain. -/
theorem exists_call_of_custom {text e : Text}
    (h : Directive.custom e ∈ (Documentation.ofText text).directives) :
    ∃ line ∈ Text.lines text, ∃ chain, Documentation.chain? line = some chain ∧
      ∃ c ∈ splitChain chain, c.name = "custom" ∧ e = customExpression c.text := by
  obtain ⟨line, hline, h⟩ := List.mem_flatMap.1 h
  unfold Documentation.lineDirectives at h
  split at h
  · rename_i chain hchain
    obtain ⟨c, hc, he⟩ := List.mem_map.1 h
    unfold ofCall at he
    split_ifs at he with hn
    exact ⟨line, hline, chain, hchain, c, hc, hn, (Directive.custom.inj he).symm⟩
  · simp at h

/-- **Names, calls and custom schemas.**  In front of its bracket a call has its name, words with
dots between them, exactly if no word there is empty; and a custom schema is what stands between the
brackets of its call, blanks around it apart, exactly then. -/
theorem isPlainCall_of_mem_splitChain_iff (s text : Text) :
    (∀ c ∈ splitChain s,
        (∃ args x, isCloser x = true ∧ c.text = c.front ++ "(" ++ args ++ [x]) ∧
        (IsPlainCall c ↔ HasNoEmptyWord c.front)) ∧
      ∀ e, Directive.custom e ∈ (Documentation.ofText text).directives →
        ∃ line ∈ Text.lines text, ∃ chain, Documentation.chain? line = some chain ∧
          ∃ c ∈ splitChain chain, c.name = "custom" ∧
            ∃ args x, isCloser x = true ∧ c.text = c.front ++ "(" ++ args ++ [x] ∧
              (e = Text.trim args ↔ HasNoEmptyWord c.front) := by
  constructor
  · intro c hc
    obtain ⟨dots, args, x, hcall⟩ := isCall_of_mem_calls hc
    exact ⟨⟨args, x, hcall.closer, text_of_isCall hcall⟩, isPlainCall_iff hcall⟩
  · intro e he
    obtain ⟨line, hline, chain, hchain, c, hc, hn, rfl⟩ := exists_call_of_custom he
    obtain ⟨dots, args, x, hcall⟩ := isCall_of_mem_calls hc
    exact ⟨line, hline, chain, hchain, c, hc, hn, args, x, hcall.closer, text_of_isCall hcall,
      customExpression_eq_trim_iff hcall hn⟩

/-- A name with a dot in it, and blanks around the arguments. -/
theorem isPlainCall_of_mem_splitChain_custom :
    let c : Call := ⟨"iso.date", "iso.date()"⟩
    c ∈ splitChain " .max(9) .iso.date() x" ∧ IsPlainCall c ∧
      Directive.custom "z.any()" ∈ (Documentation.ofText "@zod.custom( z.any() )").directives ∧
      ∃ line ∈ Text.lines "@zod.custom( z.any() )", ∃ chain,
        Documentation.chain? line = some chain ∧ ∃ c ∈ splitChain chain, c.name = "custom" ∧
          ∃ args x, isCloser x = true ∧ c.text = c.front ++ "(" ++ args ++ [x] ∧
            ("z.any()" = Text.trim args ↔ HasNoEmptyWord c.front) := by
  intro c
  have hc : c ∈ splitChain " .max(9) .iso.date() x" := by decide +kernel
  have hcustom : Directive.custom "z.any()"
      ∈ (Documentation.ofText "@zod.custom( z.any() )").directives := by decide +kernel
  obtain ⟨hcalls, hexpressions⟩ :=
    isPlainCall_of_mem_splitChain_iff " .max(9) .iso.date() x" "@zod.custom( z.any() )"
  exact ⟨hc, (hcalls c hc).2.2 (by decide +kernel), hcustom, hexpressions _ hcustom⟩

/-- A dot behind the name is taken off the name and stays in the call; of a custom schema it leaves
the bracket. -/
theorem not_isPlainCall :
    (¬ ∀ s, ∀ c ∈ splitChain s, IsPlainCall c) ∧
      Directive.custom "(z.any()" ∈ (Documentation.ofText "@zod.custom.(z.any())").directives := by
  constructor
  · intro h
    have hc : (⟨"custom", "custom.(z.any())"⟩ : Call) ∈ splitChain ".custom.(z.any())" := by
      decide +kernel
    obtain ⟨-, args, x, -, ht⟩ := h _ _ hc
    have hstart : ("custom." : Text) = "custom(" := congrArg (List.take 7) ht
    exact absurd hstart (by decide)
  · decide +kernel

end ValidatorGen.Directive
