import Mathlib.Tactic.Common
import ValidatorGen.Directive.Bracket

/-!
# Reading brackets

A reader goes through a text character by character and keeps the brackets that are open.  Inside
a string or regular-expression literal it takes no notice of brackets.  What counts as a literal
is as for the calls of a chain; which bracket may close which is a parameter `fits`.

* `isNested s` — every bracket of `s` outside literals is closed by one of its own kind, in order,
  and every literal ends;
* `read_append` — reading goes piece by piece;
* `read_over` — what a piece does above the brackets that are open before it, if it closes only
  brackets that it has opened itself;
* `read_anyKind` — a reader that minds the kinds does what one does that does not, or it stops.
-/

namespace ValidatorGen.Nesting

open Directive

/-- Where a reader stands. -/
inductive Place
  /-- Outside literals; `before` is the last character in front that is not blank. -/
  | code (before : CodePoint)
  | string (quote : CodePoint)
  /-- Behind a backslash in a string literal. -/
  | stringEscape (quote : CodePoint)
  | regex (inClass : Bool)
  | regexEscape (inClass : Bool)
  deriving DecidableEq, Repr

/-- A reader: its place, and the brackets that are open, the innermost first. -/
structure Reader where
  place : Place
  brackets : List CodePoint := []
  deriving DecidableEq, Repr

/-- The reader in front of a text; an operand may start there. -/
def Reader.start : Reader := ⟨.code '(', []⟩

/-- Outside literals with no bracket open. -/
def Reader.isDone (r : Reader) : Bool :=
  match r.place with
  | .code _ => r.brackets.isEmpty
  | _ => false

/-- The reader with more brackets open on the outside. -/
def Reader.over (r : Reader) (outer : List CodePoint) : Reader := ⟨r.place, r.brackets ++ outer⟩

/-- The closing bracket `c` is of the kind of `o`. -/
def sameKind (o c : CodePoint) : Bool :=
  (o = '(' && c = ')') || (o = '[' && c = ']') || (o = '{' && c = '}')

/-- Every bracket closes every other. -/
def anyKind (_ _ : CodePoint) : Bool := true

section Reading

variable (fits : CodePoint → CodePoint → Bool)

/-- One character outside literals. -/
def codeStep (before : CodePoint) (bs : List CodePoint) (c : CodePoint) : Option Reader :=
  if isQuote c then some ⟨.string c, bs⟩
  else if c = '/' ∧ beforeOperand before then some ⟨.regex false, bs⟩
  else if isOpener c then some ⟨.code c, c :: bs⟩
  else if isCloser c then
    match bs with
    | o :: r => if fits o c then some ⟨.code c, r⟩ else none
    | [] => none
  else some ⟨.code (if Text.isBlank c then before else c), bs⟩

/-- One character. -/
def step (r : Reader) (c : CodePoint) : Option Reader :=
  match r.place with
  | .code b => codeStep fits b r.brackets c
  | .string q =>
    some ⟨if c = '\\' then .stringEscape q else if c = q then .code c else .string q, r.brackets⟩
  | .stringEscape q => some ⟨.string q, r.brackets⟩
  | .regex k =>
    some ⟨if c = '\\' then .regexEscape k else if c = '/' ∧ k = false then .code c
      else .regex (c = '[' || (k && c != ']')), r.brackets⟩
  | .regexEscape k => some ⟨.regex k, r.brackets⟩

/-- A whole text. -/
def read (r : Reader) : Text → Option Reader
  | [] => some r
  | c :: s => (step fits r c).bind fun r => read r s

end Reading

/-- Every bracket outside literals is closed by one of its own kind, in order, and every literal
ends. -/
def isNested (s : Text) : Bool := (read sameKind .start s).any Reader.isDone

example : isNested "max(Math.max([1, 2], \"]\"), /[(/]/g)" = true := by decide

example : isNested "max(1]" = false := by decide

/-! ## Piece by piece -/

section Pieces

variable {fits : CodePoint → CodePoint → Bool}

@[simp] theorem read_nil (r : Reader) : read fits r [] = some r := rfl

theorem read_cons (r : Reader) (c : CodePoint) (s : Text) :
    read fits r (c :: s) = (step fits r c).bind fun r => read fits r s := rfl

theorem read_append (r : Reader) (s t : Text) :
    read fits r (s ++ t) = (read fits r s).bind fun r => read fits r t := by
  induction s generalizing r with
  | nil => rfl
  | cons c s ih =>
    rw [List.cons_append, read_cons, read_cons, Option.bind_assoc]
    congr 1
    funext r'
    exact ih r'

theorem read_append_of_eq {r r' : Reader} {s : Text} (h : read fits r s = some r') (t : Text) :
    read fits r (s ++ t) = read fits r' t := by
  rw [read_append, h]
  rfl

theorem read_append_of_eq_none {r : Reader} {s : Text} (h : read fits r s = none) (t : Text) :
    read fits r (s ++ t) = none := by
  rw [read_append, h]
  rfl

theorem isNested_iff {s : Text} :
    isNested s = true ↔ ∃ b, read sameKind .start s = some ⟨.code b, []⟩ := by
  unfold isNested
  constructor
  · intro h
    obtain ⟨⟨p, bs⟩, hr, hd⟩ := (Option.any_eq_true _ _).1 h
    cases p with
    | code b =>
      have hbs : bs = [] := by simpa [Reader.isDone] using hd
      exact ⟨b, hbs ▸ hr⟩
    | _ => simp [Reader.isDone] at hd
  · rintro ⟨b, h⟩
    rw [h]
    rfl

end Pieces

/-! ## Kinds -/

section Kinds

variable {fits : CodePoint → CodePoint → Bool}

theorem step_anyKind {r r' : Reader} {c : CodePoint} (h : step fits r c = some r') :
    step anyKind r c = some r' := by
  obtain ⟨p, bs⟩ := r
  cases p with
  | code b =>
    simp only [step, codeStep] at h ⊢
    split_ifs at h ⊢ with h1 h2 h3 h4
    · exact h
    · exact h
    · exact h
    · cases bs with
      | nil => exact absurd h (by simp)
      | cons o bs =>
        have hf : fits o c = true := by
          by_contra hf
          simp [hf] at h
        simpa [hf, anyKind] using h
    · exact h
    · exact h
  | _ => exact h

/-- A reader that minds the kinds of brackets does what one does that does not, or it stops. -/
theorem read_anyKind {r r' : Reader} {s : Text} (h : read fits r s = some r') :
    read anyKind r s = some r' := by
  induction s generalizing r with
  | nil => exact h
  | cons c s ih =>
    obtain ⟨r₁, h1, h2⟩ := Option.bind_eq_some_iff.1 h
    rw [read_cons, step_anyKind h1]
    exact ih h2

/-! ## Brackets that are open before -/

theorem step_over {r r' : Reader} {c : CodePoint} (h : step anyKind r c = some r')
    (outer : List CodePoint) : step fits (r.over outer) c = (step fits r c).map (·.over outer) := by
  obtain ⟨p, bs⟩ := r
  cases p with
  | code b =>
    simp only [step, Reader.over, codeStep] at h ⊢
    split_ifs at h ⊢ with h1 h2 h3 h4
    · rfl
    · rfl
    · rfl
    · cases bs with
      | nil => exact absurd h (by simp)
      | cons o bs =>
        simp only [List.cons_append]
        split_ifs <;> rfl
    · rfl
    · rfl
  | _ => rfl

/-- A text that closes only brackets that it has opened reads alike whatever is open around it. -/
theorem read_over {r r' : Reader} {s : Text} (h : read anyKind r s = some r')
    (outer : List CodePoint) : read fits (r.over outer) s = (read fits r s).map (·.over outer) := by
  induction s generalizing r with
  | nil => rfl
  | cons c s ih =>
    obtain ⟨r₁, h1, h2⟩ := Option.bind_eq_some_iff.1 h
    rw [read_cons, read_cons, step_over h1]
    cases hs : step fits r c with
    | none => rfl
    | some r₂ =>
      have e : r₂ = r₁ := Option.some.inj ((step_anyKind hs).symm.trans h1)
      subst e
      exact ih h2

end Kinds

/-! ## Plain text -/

/-- A character that means nothing to a reader outside literals. -/
def isPlain (c : CodePoint) : Bool := !(isQuote c || c = '/' || isOpener c || isCloser c)

theorem step_of_isPlain (fits : CodePoint → CodePoint → Bool) {c : CodePoint}
    (h : isPlain c = true) (b : CodePoint) (bs : List CodePoint) :
    step fits ⟨.code b, bs⟩ c = some ⟨.code (if Text.isBlank c then b else c), bs⟩ := by
  simp only [isPlain, Bool.not_eq_true', Bool.or_eq_false_iff, decide_eq_false_iff_not] at h
  obtain ⟨⟨⟨h1, h2⟩, h3⟩, h4⟩ := h
  simp [step, codeStep, h1, h2, h3, h4]

/-- Plain text leaves the reader outside literals and changes no brackets. -/
theorem read_of_isPlain (fits : CodePoint → CodePoint → Bool) {s : Text}
    (h : s.all isPlain = true) (b : CodePoint) (bs : List CodePoint) :
    ∃ b', read fits ⟨.code b, bs⟩ s = some ⟨.code b', bs⟩ ∧ (b' = b ∨ b' ∈ s) := by
  induction s generalizing b with
  | nil => exact ⟨b, rfl, .inl rfl⟩
  | cons c s ih =>
    rw [List.all_cons, Bool.and_eq_true] at h
    rw [read_cons, step_of_isPlain fits h.1]
    obtain ⟨b', h1, h2⟩ := ih h.2 (if Text.isBlank c then b else c)
    refine ⟨b', h1, ?_⟩
    rcases h2 with rfl | h2
    · split_ifs
      · exact .inl rfl
      · exact .inr List.mem_cons_self
    · exact .inr (List.mem_cons_of_mem _ h2)

/-- A text that means nothing to a reader outside literals. -/
def IsPlainText (s : Text) : Prop := s.all isPlain = true

theorem IsPlainText.isNested {s : Text} (h : IsPlainText s) : isNested s = true := by
  obtain ⟨b, hb, -⟩ := read_of_isPlain sameKind h '(' []
  exact isNested_iff.2 ⟨b, hb⟩

theorem IsPlainText.append {s t : Text} (hs : IsPlainText s) (ht : IsPlainText t) :
    IsPlainText (s ++ t) := by
  unfold IsPlainText at *
  rw [List.all_append, hs, ht]
  rfl

theorem IsPlainText.of_subset {s t : Text} (ht : IsPlainText t) (h : ∀ c ∈ s, c ∈ t) :
    IsPlainText s :=
  List.all_eq_true.2 fun c hc => List.all_eq_true.1 ht c (h c hc)

theorem ne_char {p : CodePoint → Bool} {c : CodePoint} (h : p c = true) {d : Char}
    (hd : p d = false) : c ≠ d := by
  rintro rfl
  rw [hd] at h
  exact Bool.noConfusion h

/-- A class of characters without quotes, brackets and the slash is plain. -/
theorem isPlain_of_class {p : CodePoint → Bool} {c : CodePoint} (h : p c = true)
    (hp : (['"', '\'', '`', '/', '(', '[', '{', ')', ']', '}'].all fun d : Char => !p d) = true) :
    isPlain c = true := by
  have hd : ∀ d : Char, d ∈ ['"', '\'', '`', '/', '(', '[', '{', ')', ']', '}'] → c ≠ d := by
    intro d hd
    exact ne_char h (by simpa using List.all_eq_true.1 hp d hd)
  simp only [List.forall_mem_cons] at hd
  obtain ⟨h1, h2, h3, h4, h5, h6, h7, h8, h9, h10, -⟩ := hd
  simp [isPlain, isQuote, isOpener, isCloser, h1, h2, h3, h4, h5, h6, h7, h8, h9, h10]

/-! ## Blanks at the ends -/

theorem isPlain_of_isBlank {c : CodePoint} (h : Text.isBlank c = true) : isPlain c = true :=
  isPlain_of_class h (by decide)

/-- Blanks outside literals change nothing. -/
theorem read_blanks (fits : CodePoint → CodePoint → Bool) {s : Text}
    (h : s.all Text.isBlank = true) (b : CodePoint) (bs : List CodePoint) :
    read fits ⟨.code b, bs⟩ s = some ⟨.code b, bs⟩ := by
  induction s with
  | nil => rfl
  | cons c s ih =>
    rw [List.all_cons, Bool.and_eq_true] at h
    rw [read_cons, step_of_isPlain fits (isPlain_of_isBlank h.1), h.1]
    exact ih h.2

/-- The string literal that the reader is in, if it is in one, was opened by a quote. -/
def Reader.InQuotes (r : Reader) : Prop :=
  match r.place with
  | .string q | .stringEscape q => isQuote q = true
  | _ => True

section Blanks

variable {fits : CodePoint → CodePoint → Bool}

theorem codeStep_inQuotes {b c : CodePoint} {bs : List CodePoint} {r' : Reader}
    (h : codeStep fits b bs c = some r') : r'.InQuotes := by
  unfold codeStep at h
  split_ifs at h with hq hr ho hx hb
  · cases h
    exact hq
  · cases h
    trivial
  · cases h
    trivial
  · cases bs with
    | nil => exact absurd h (by simp)
    | cons o bs =>
      dsimp only at h
      split_ifs at h
      cases h
      trivial
  · cases h
    trivial
  · cases h
    trivial

theorem step_inQuotes {r r' : Reader} {c : CodePoint} (hr : r.InQuotes)
    (h : step fits r c = some r') : r'.InQuotes := by
  obtain ⟨p, bs⟩ := r
  cases p with
  | code b => exact codeStep_inQuotes h
  | string q =>
    simp only [step, Option.some.injEq] at h
    subst h
    split_ifs
    · exact hr
    · trivial
    · exact hr
  | stringEscape q =>
    simp only [step, Option.some.injEq] at h
    subst h
    exact hr
  | regex k =>
    simp only [step, Option.some.injEq] at h
    subst h
    split_ifs <;> trivial
  | regexEscape k =>
    simp only [step, Option.some.injEq] at h
    subst h
    trivial

theorem read_inQuotes {r r' : Reader} {s : Text} (hr : r.InQuotes) (h : read fits r s = some r') :
    r'.InQuotes := by
  induction s generalizing r with
  | nil =>
    cases h
    exact hr
  | cons c s ih =>
    obtain ⟨r₁, h1, h2⟩ := Option.bind_eq_some_iff.1 h
    exact ih (step_inQuotes hr h1) h2

/-- No literal ends in a blank. -/
theorem eq_of_step_blank {r : Reader} {c b : CodePoint} {bs : List CodePoint} (hr : r.InQuotes)
    (hc : Text.isBlank c = true) (h : step fits r c = some ⟨.code b, bs⟩) :
    r = ⟨.code b, bs⟩ := by
  have hp := isPlain_of_isBlank hc
  obtain ⟨p, bs'⟩ := r
  cases p with
  | code b' =>
    rw [step_of_isPlain fits hp, hc] at h
    exact Option.some.inj h
  | string q =>
    have hq : c ≠ q := by
      rintro rfl
      have hr : isQuote c = true := hr
      simp [isPlain, hr] at hp
    simp only [step, hq, if_false, Option.some.injEq, Reader.mk.injEq] at h
    split_ifs at h <;> exact absurd h.1 (by simp)
  | regex k =>
    have hs : c ≠ '/' := by
      rintro rfl
      exact absurd hp (by decide)
    simp only [step, hs, false_and, if_false, Option.some.injEq, Reader.mk.injEq] at h
    split_ifs at h <;> exact absurd h.1 (by simp)
  | stringEscape q => simp [step] at h
  | regexEscape k => simp [step] at h

theorem eq_of_read_blanks {r : Reader} {s : Text} {b : CodePoint} {bs : List CodePoint}
    (hr : r.InQuotes) (hs : s.all Text.isBlank = true) (h : read fits r s = some ⟨.code b, bs⟩) :
    r = ⟨.code b, bs⟩ := by
  induction s generalizing r with
  | nil => exact Option.some.inj h
  | cons c s ih =>
    rw [List.all_cons, Bool.and_eq_true] at hs
    obtain ⟨r₁, h1, h2⟩ := Option.bind_eq_some_iff.1 h
    have e := ih (step_inQuotes hr h1) hs.2 h2
    subst e
    exact eq_of_step_blank hr hs.1 h1

/-- What trimming takes away is outside literals if the text ends there. -/
theorem read_trim {s : Text} {b : CodePoint} {bs : List CodePoint}
    (h : read fits .start s = some ⟨.code b, bs⟩) :
    read fits .start (Text.trim s) = some ⟨.code b, bs⟩ := by
  have hstart : read fits .start (Text.trimStart s) = some ⟨.code b, bs⟩ := by
    rw [← List.takeWhile_append_dropWhile (p := Text.isBlank) (l := s), Reader.start,
      read_append_of_eq (read_blanks fits List.all_takeWhile '(' [])] at h
    exact h
  have hsplit : Text.trimStart s = Text.trim s
      ++ ((Text.trimStart s).reverse.takeWhile Text.isBlank).reverse := by
    rw [Text.trim, Text.trimEnd, ← List.reverse_append, List.takeWhile_append_dropWhile,
      List.reverse_reverse]
  rw [hsplit, read_append] at hstart
  obtain ⟨r, h1, h2⟩ := Option.bind_eq_some_iff.1 hstart
  have hq : r.InQuotes := read_inQuotes (show Reader.InQuotes .start from trivial) h1
  have e := eq_of_read_blanks hq (by rw [List.all_reverse]; exact List.all_takeWhile) h2
  rw [h1, e]

end Blanks

end ValidatorGen.Nesting
