import ValidatorGen.Proofs.Compile.Base
import ValidatorGen.Proofs.Compile.Refinement
import ValidatorGen.Proofs.Identifier
import ValidatorGen.Proofs.Nesting.Link

/-!
# Parts of a validator

What a field brings into its validator by itself, without its documentation, is nested: the bases,
the refinements of column types with their regular expressions, the policies and the default.

* `isNestedBase_draft` — the base of a field;
* `isNestedCall_of_isRefinement` — the modifiers of its type;
* `isNestedCall_defaultToken?` — the default, whatever its text holds.
-/

namespace ValidatorGen.Nesting

open Directive Compile

/-! ## Numbers -/

/-- A character of a whole number. -/
def isNumeral (c : CodePoint) : Bool := c.isDigit || c = '-'

theorem isNumeral_of_mem_signedDecimal {n : Int} {c : CodePoint}
    (h : c ∈ Text.signedDecimal n) : isNumeral c = true := by
  have hd : ∀ c ∈ Text.decimal n.natAbs, isNumeral c = true := by
    intro c hc
    rw [isNumeral, Text.isDigit_of_mem_digitsIn hc, Bool.true_or]
  unfold Text.signedDecimal at h
  split_ifs at h
  · rcases List.mem_cons.1 h with rfl | h
    · rfl
    · exact hd c h
  · exact hd c h

theorem isPlainText_digitsIn (n : Nat) : IsPlainText (Text.digitsIn 10 n) :=
  List.all_eq_true.2 fun _ hc => isPlain_of_class (Text.isDigit_of_mem_digitsIn hc) (by decide)

theorem isPlainText_signedDecimal (n : Int) : IsPlainText (Text.signedDecimal n) :=
  List.all_eq_true.2 fun _ hc => isPlain_of_class (isNumeral_of_mem_signedDecimal hc) (by decide)

theorem isPlainText_zeros (n : Nat) : IsPlainText (Decimal.zeros n) := by
  refine List.all_eq_true.2 fun c hc => ?_
  rw [List.eq_of_mem_replicate hc]
  rfl

theorem isPlainText_write (l : Decimal.Layout) (n : Nat) (x : Int) : IsPlainText (l.write n x) := by
  have hd := isPlainText_digitsIn n
  have ht : ∀ k, IsPlainText ((Text.digitsIn 10 n).take k) := fun k =>
    hd.of_subset fun c hc => List.mem_of_mem_take hc
  have hr : ∀ k, IsPlainText ((Text.digitsIn 10 n).drop k) := fun k =>
    hd.of_subset fun c hc => List.mem_of_mem_drop hc
  have hp : IsPlainText "." := rfl
  unfold Decimal.Layout.write
  dsimp only
  split_ifs
  · exact ((show IsPlainText "0." from rfl).append (isPlainText_zeros _)).append hd
  · exact (hd.append (isPlainText_zeros _)).append rfl
  · exact ((ht _).append hp).append (hr _)
  all_goals
    refine IsPlainText.append (.append (.append (.append (.append (ht 1) ?_) rfl) rfl)
      (isPlainText_zeros _)) (isPlainText_digitsIn _)
    first
      | exact rfl
      | exact hp.append (hr 1)

theorem isPlainText_text (x : Float) : IsPlainText (Decimal.text x) := by
  have hsign : ∀ (s : Bool) (body : Text), IsPlainText body →
      IsPlainText (if s then '-' :: body else body) := by
    intro s body hb
    split_ifs
    · exact .append (show IsPlainText ['-'] from rfl) hb
    · exact hb
  unfold Decimal.text
  split
  · rfl
  · split_ifs <;> rfl
  · refine hsign _ _ ?_
    split_ifs
    · rfl
    · exact isPlainText_write _ _ _

/-! ## The default -/

theorem step_string {fits : CodePoint → CodePoint → Bool} (q c : CodePoint)
    (bs : List CodePoint) (h1 : c ≠ '\\') (h2 : c ≠ q) :
    step fits ⟨.string q, bs⟩ c = some ⟨.string q, bs⟩ := by
  simp [step, h1, h2]

/-- Escaped text stays inside its quotes. -/
theorem read_escapeFor {fits : CodePoint → CodePoint → Bool} (q : CodePoint) (s : Text)
    (bs : List CodePoint) :
    read fits ⟨.string q, bs⟩ (Text.escapeFor q s) = some ⟨.string q, bs⟩ := by
  induction s with
  | nil => rfl
  | cons c s ih =>
    have hc : read fits ⟨.string q, bs⟩ (Text.escapeOne q c) = some ⟨.string q, bs⟩ := by
      unfold Text.escapeOne
      split_ifs with h
      · simp [read_cons, step]
      · obtain ⟨h1, h2⟩ := not_or.1 h
        rw [read_cons, step_string q c bs h1 h2]
        rfl
    rw [Text.escapeFor_cons, read_append_of_eq hc, ih]

theorem isNested_quoteDouble (s : Text) : isNested (Text.quoteDouble s) = true := by
  refine isNested_iff.2 ⟨'"', ?_⟩
  show read sameKind .start (("\"" : Text) ++ Text.escapeFor '"' s ++ "\"") = _
  rw [List.append_assoc,
    read_append_of_eq (show read sameKind .start "\"" = some ⟨.string '"', []⟩ from rfl),
    read_append_of_eq (read_escapeFor '"' s [])]
  rfl

theorem isNested_render? {l : Literal} {t : Text} (h : l.render? = some t) : isNested t = true := by
  cases l with
  | bool b =>
    cases h
    cases b <;> rfl
  | int n =>
    cases h
    exact (isPlainText_signedDecimal n).isNested
  | float x =>
    have hp : IsPlainText t := by
      simp only [Literal.render?, floatLiteral?] at h
      split at h
      · split at h
        · split_ifs at h
          · cases h
            exact isPlainText_signedDecimal _
          · cases h
            exact isPlainText_text x
        · cases h
          exact isPlainText_text x
      · exact absurd h (by simp)
    exact hp.isNested
  | text s =>
    cases h
    exact isNested_quoteDouble s

theorem isNestedCall_defaultToken? {l? : Option Literal} {t : Text}
    (h : defaultToken? l? = some t) : IsNestedCall t := by
  obtain ⟨u, hu, rfl⟩ := Option.map_eq_some_iff.1 h
  obtain ⟨l, rfl, hl⟩ := Option.bind_eq_some_iff.1 hu
  exact ⟨"default", u, rfl, rfl, isNested_render? hl⟩

/-! ## Refinements -/

theorem isNestedCall_bound {name : Text} (h : name.all isNameChar = true) (n : Int) :
    IsNestedCall (bound name n) :=
  ⟨name, _, rfl, h, (isPlainText_signedDecimal n).isNested⟩

/-- A character that neither ends a regular expression nor changes how it goes on. -/
def isRegexPlain (c : CodePoint) : Bool := !(c = '\\' || c = '/' || c = '[')

theorem read_regex {fits : CodePoint → CodePoint → Bool} {s : Text}
    (h : s.all isRegexPlain = true) (bs : List CodePoint) :
    read fits ⟨.regex false, bs⟩ s = some ⟨.regex false, bs⟩ := by
  induction s with
  | nil => rfl
  | cons c s ih =>
    rw [List.all_cons, Bool.and_eq_true] at h
    have hc := h.1
    simp only [isRegexPlain, Bool.not_eq_true', Bool.or_eq_false_iff,
      decide_eq_false_iff_not] at hc
    obtain ⟨⟨h1, h2⟩, h3⟩ := hc
    have hs : step fits ⟨.regex false, bs⟩ c = some ⟨.regex false, bs⟩ := by
      simp [step, h1, h2, h3]
    rw [read_cons, hs]
    exact ih h.2

theorem isRegexPlain_signedDecimal (n : Int) : (Text.signedDecimal n).all isRegexPlain = true := by
  refine List.all_eq_true.2 fun c hc => ?_
  have h := isNumeral_of_mem_signedDecimal hc
  have hd : ∀ d : Char, isNumeral d = false → c ≠ d := fun d => ne_char h
  simp [isRegexPlain, hd _ (show isNumeral '\\' = false from rfl),
    hd _ (show isNumeral '/' = false from rfl), hd _ (show isNumeral '[' = false from rfl)]

/-- The pattern is read as one regular expression, whatever its bounds. -/
theorem isNestedCall_numeralRefinement (digits scale : Int) :
    IsNestedCall (numeralRefinement digits scale) := by
  have hcount : ∀ (pre : Text) (n : Int) (post : Text),
      read sameKind ⟨.regex false, []⟩ pre = some ⟨.regex false, []⟩ →
      read sameKind ⟨.regex false, []⟩ post = some ⟨.regex false, []⟩ →
      read sameKind ⟨.regex false, []⟩ (pre ++ Text.signedDecimal n ++ post)
        = some ⟨.regex false, []⟩ := by
    intro pre n post h1 h2
    rw [List.append_assoc, read_append_of_eq h1,
      read_append_of_eq (read_regex (isRegexPlain_signedDecimal n) []), h2]
  unfold numeralRefinement
  dsimp only
  generalize hw : ("\\d\x7b1," : Text) ++ Text.signedDecimal digits ++ "\x7d" = whole
  generalize hp : (if scale = 0 then ("" : Text)
    else "(\\.\\d\x7b1," ++ Text.signedDecimal scale ++ "\x7d)?") = places
  have h1 : read sameKind ⟨.regex false, []⟩ whole = some ⟨.regex false, []⟩ := by
    rw [← hw]
    exact hcount _ _ _ rfl rfl
  have h2 : read sameKind ⟨.regex false, []⟩ places = some ⟨.regex false, []⟩ := by
    rw [← hp]
    split_ifs
    · rfl
    · exact hcount _ _ _ rfl rfl
  refine ⟨"refine", "x => /^" ++ whole ++ places ++ "$/.test(x.toString())", ?_, rfl, ?_⟩
  · simp only [List.append_assoc]
    rfl
  · refine isNested_iff.2 ⟨')', ?_⟩
    rw [List.append_assoc, List.append_assoc,
      read_append_of_eq (show read sameKind .start "x => /^" = some ⟨.regex false, []⟩ from rfl),
      read_append_of_eq h1, read_append_of_eq h2]
    rfl

theorem isNestedCall_of_isRefinement {t : Text} (h : IsRefinement t) : IsNestedCall t := by
  cases h with
  | int => exact ⟨"int", "", rfl, rfl, rfl⟩
  | low n => exact isNestedCall_bound rfl n
  | high n => exact isNestedCall_bound rfl n
  | numeral digits scale => exact isNestedCall_numeralRefinement digits scale
  | objectId => exact ⟨"regex", "/^[0-9a-f]\x7b24\x7d$/i", rfl, rfl, rfl⟩
  | trim => exact ⟨"trim", "", rfl, rfl, rfl⟩
  | prefault => exact ⟨"prefault", "\"\"", rfl, rfl, rfl⟩

/-! ## Bases -/

/-- A base that is there and nested. -/
structure IsNestedBase (s : Text) : Prop where
  ne_nil : s ≠ []
  isNested : isNested s = true

theorem isNestedBase_namespaceOf {rest : Text} (c : Config)
    (h : isNested ("z" ++ rest) = true ∧ isNested ("z.coerce" ++ rest) = true) :
    IsNestedBase (namespaceOf c ++ rest) := by
  unfold namespaceOf
  split_ifs
  · exact ⟨List.cons_ne_nil _ _, h.2⟩
  · exact ⟨List.cons_ne_nil _ _, h.1⟩

theorem isNestedBase_of_isScalarBase {c : Config} {s : Text} (h : IsScalarBase c s) :
    IsNestedBase s := by
  have hall : ∀ rest ∈ coercibleBases,
      isNested ("z" ++ rest) = true ∧ isNested ("z.coerce" ++ rest) = true := by decide
  cases h with
  | coercible h => exact isNestedBase_namespaceOf c (hall _ h)
  | dayOrTime h =>
    rw [List.append_assoc]
    unfold dayOrTimePattern? at h
    split_ifs at h <;> cases h <;> exact isNestedBase_namespaceOf c ⟨rfl, rfl⟩
  | uuid => exact ⟨by decide, rfl⟩
  | buffer => exact ⟨by decide, rfl⟩
  | unknown => exact ⟨by decide, rfl⟩

theorem isNestedBase_draftScalar (f : Field) (native? : Option Text) (c : Config) :
    IsNestedBase (draftScalar f native? c).base := by
  cases hj : f.hasType .json with
  | true =>
    rw [draftScalar_json hj]
    exact ⟨by decide, rfl⟩
  | false => exact isNestedBase_of_isScalarBase (isScalarBase_draftScalar hj native? c)

theorem isPlainText_of_isIdentifier {s : Text} (h : Check.isIdentifier s = true) :
    IsPlainText s :=
  List.all_eq_true.2 fun c hc =>
    isPlain_of_class (List.all_eq_true.1 (Check.all_continuesIdentifier h) c hc) (by decide)

theorem isNestedBase_of_isIdentifier {s : Text} (h : Check.isIdentifier s = true) :
    IsNestedBase s := by
  refine ⟨?_, (isPlainText_of_isIdentifier h).isNested⟩
  rintro rfl
  exact absurd h (by decide)

theorem isNestedBase_draft {f : Field} (native? : Option Text) (c : Config)
    {related : Text → Text} (ht : Check.isIdentifier f.type = true)
    (hr : f.kind = .relation → Check.isIdentifier (related f.type) = true) :
    IsNestedBase (draft f native? c related).base := by
  unfold draft
  split
  · exact isNestedBase_draftScalar f native? c
  · unfold enumBase
    split_ifs
    · exact isNestedBase_of_isIdentifier (Check.isIdentifier_enumSchemaName ht)
    · have hn : IsNestedCall ("z.enum(" ++ f.type ++ ")") :=
        ⟨"z.enum", f.type, rfl, rfl, (isPlainText_of_isIdentifier ht).isNested⟩
      exact ⟨List.cons_ne_nil _ _, hn.isNested⟩
  · rename_i hk
    exact isNestedBase_of_isIdentifier (hr hk)

end ValidatorGen.Nesting
