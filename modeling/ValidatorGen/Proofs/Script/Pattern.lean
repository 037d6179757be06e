import Mathlib.Computability.Language
import ValidatorGen.Proofs.Text
import ValidatorGen.Text.Whole

/-!
# Reading regular expressions

How ECMAScript reads a regular expression that describes a whole text, and which texts it describes.
Read are characters of ASCII, the class of digits, groups, and a bound or a question mark behind a
piece; other expressions are not read.

* `Pattern.language` — the texts that an expression describes;
* `body?_cons` — an expression is read sign by sign;
* `number?_decimal`, `sign?_bounds` — a bound is read as it is written;
* `mem_language_digits` — which texts are a bounded number of digits.
-/

namespace ValidatorGen.Script

/-- A regular expression. -/
inductive Pattern
  | empty
  | char (c : CodePoint)
  | digit
  | seq (first rest : Pattern)
  | times (p : Pattern) (least most : Nat)
  deriving DecidableEq, Repr

namespace Pattern

/-- The texts that an expression describes. -/
def language : Pattern → Language CodePoint
  | empty => 1
  | char c => {s | s = [c]}
  | digit => {s | ∃ c, s = [c] ∧ c.isDigit = true}
  | seq p q => p.language * q.language
  | times p least most => {s | ∃ n, least ≤ n ∧ n ≤ most ∧ s ∈ p.language ^ n}

/-- Pieces one behind the other, of which the last one comes first. -/
def ofPieces (pieces : List Pattern) : Pattern := pieces.foldl (fun rest p => seq p rest) empty

end Pattern

/-! ## Reading -/

/-- A sign of an expression. -/
inductive Sign
  | piece (p : Pattern)
  | opens
  | closes
  | times (least most : Nat)
  deriving DecidableEq, Repr

/-- The number that a text starts with. -/
def number? (s : Text) : Option (Nat × Text) :=
  let digits := s.takeWhile CodePoint.isDigit
  if digits.isEmpty then none
  else some (Text.ofDigits 10 (digits.map fun c => c.toNat - 0x30), s.dropWhile CodePoint.isDigit)

/-- The two numbers of a bound, behind its opening brace. -/
def bounds? (s : Text) : Option (Sign × Text) :=
  match number? s with
  | some (least, .char ',' :: r) =>
    match number? r with
    | some (most, .char '\x7d' :: r) => if most < least then none else some (.times least most, r)
    | _ => none
  | _ => none

/-- The characters that mean something else than themselves and are not read. -/
def reserved : Text := "^$.*+[]|/\x7d\n\r"

/-- The sign that a text starts with. -/
def sign? : Text → Option (Sign × Text)
  | [] => none
  | c :: r =>
    if c = '\\' then
      match r with
      | [] => none
      | d :: r =>
        if d = 'd' then some (.piece .digit, r)
        else if d.isAlphanum ∨ d = '\n' ∨ d = '\r' ∨ 0x80 ≤ d.toNat then none
        else some (.piece (.char d), r)
    else if c = '(' then some (.opens, r)
    else if c = ')' then some (.closes, r)
    else if c = '?' then some (.times 0 1, r)
    else if c = '\x7b' then bounds? r
    else if c ∈ reserved ∨ 0x80 ≤ c.toNat then none
    else some (.piece (.char c), r)

/-- Takes up a sign: `now` are the pieces of the innermost group, the last one first, and `around`
those of the groups around it.  A bound needs a piece that has none yet. -/
def Sign.put (now : List Pattern) (around : List (List Pattern)) :
    Sign → Option (List Pattern × List (List Pattern))
  | piece p => some (p :: now, around)
  | opens => some ([], now :: around)
  | closes =>
    match around with
    | [] => none
    | outer :: around => some (.ofPieces now :: outer, around)
  | times least most =>
    match now with
    | [] | .times .. :: _ => none
    | p :: now => some (.times p least most :: now, around)

theorem length_dropWhile_le (p : CodePoint → Bool) (s : Text) :
    (s.dropWhile p).length ≤ s.length := (s.dropWhile_suffix p).length_le

theorem length_number?_le {s r : Text} {n : Nat} (h : number? s = some (n, r)) :
    r.length ≤ s.length := by
  unfold number? at h
  dsimp only at h
  split_ifs at h
  obtain ⟨-, rfl⟩ := Prod.mk.inj (Option.some.inj h)
  exact length_dropWhile_le _ s

theorem length_bounds?_le {s r : Text} {g : Sign} (h : bounds? s = some (g, r)) :
    r.length ≤ s.length := by
  unfold bounds? at h
  split at h
  · next least t ht =>
    have hleast := length_number?_le ht
    split at h
    · next most u hu =>
      have hmost := length_number?_le hu
      split_ifs at h
      obtain ⟨-, rfl⟩ := Prod.mk.inj (Option.some.inj h)
      simp only [List.length_cons] at hleast hmost
      omega
    · cases h
  · cases h

theorem length_sign?_lt {s r : Text} {g : Sign} (h : sign? s = some (g, r)) :
    r.length < s.length := by
  unfold sign? at h
  split at h
  · cases h
  · next c t =>
    rw [List.length_cons]
    split_ifs at h
    · split at h
      · cases h
      · next d u =>
        rw [List.length_cons]
        split_ifs at h <;> cases h <;> omega
    any_goals cases h; omega
    · have := length_bounds?_le h
      omega

/-- The expression with this text, behind the pieces that have been read. -/
def body? (now : List Pattern) (around : List (List Pattern)) (s : Text) : Option Pattern :=
  match s with
  | [] => if around.isEmpty then some (.ofPieces now) else none
  | c :: r =>
    match h : sign? (c :: r) with
    | none => none
    | some (g, t) =>
      have := length_sign?_lt h
      match g.put now around with
      | none => none
      | some (now, around) => body? now around t
termination_by s.length
decreasing_by exact this

/-- The expression that a validator tests the written form of a value with. -/
def tested? (token : Text) : Option Pattern := do
  let r ← Text.dropStart? "refine(x => /^" token
  let body ← List.isSuffixOf? ("$/.test(x.toString()))" : Text) r
  body? [] [] body

theorem tested?_append (body : Text) :
    tested? ("refine(x => /^" ++ body ++ "$/.test(x.toString()))") = body? [] [] body := by
  have hstart : Text.dropStart? "refine(x => /^"
      ("refine(x => /^" ++ body ++ "$/.test(x.toString()))")
      = some (body ++ "$/.test(x.toString()))") :=
    Text.dropStart?_eq_some.2 (List.append_assoc _ _ _)
  have hend : List.isSuffixOf? ("$/.test(x.toString()))" : Text)
      (body ++ "$/.test(x.toString()))") = some body :=
    List.isSuffixOf?_eq_some_iff_append_eq.2 rfl
  unfold tested?
  rw [hstart]
  simp only [Option.bind_eq_bind, Option.bind_some]
  rw [hend, Option.bind_some]

theorem body?_nil (now : List Pattern) : body? now [] [] = some (.ofPieces now) := by
  rw [body?]
  rfl

theorem body?_cons {now now' : List Pattern} {around around' : List (List Pattern)} {s t : Text}
    {g : Sign} (h : sign? s = some (g, t)) (hg : g.put now around = some (now', around')) :
    body? now around s = body? now' around' t := by
  cases s with
  | nil => cases h
  | cons c r =>
    rw [body?]
    split
    · next hnone =>
      rw [hnone] at h
      cases h
    · next g' t' hsome =>
      rw [hsome] at h
      cases h
      dsimp only
      rw [hg]

/-! ## Numbers -/

theorem ofDigits_decimal (n : Nat) :
    Text.ofDigits 10 ((Text.decimal n).map fun c => c.toNat - 0x30) = n := by
  have hfold : ∀ (cs : List Char) (m : Nat),
      ((Text.ofChars cs).map fun c => c.toNat - 0x30).foldl (fun n d => n * 10 + d) m
        = Nat.ofDigitChars 10 cs m := by
    intro cs
    induction cs with
    | nil => exact fun m => rfl
    | cons c cs ih =>
      intro m
      rw [Nat.ofDigitChars_cons, ← ih, Nat.mul_comm 10 m]
      rfl
  unfold Text.ofDigits Text.decimal Text.digitsIn
  rw [hfold, Nat.ofDigitChars_ten_toDigits]

/-- A number is read as it is written. -/
theorem number?_decimal (n : Nat) {r : Text} (hr : ∀ c ∈ r.head?, c.isDigit = false) :
    number? (Text.decimal n ++ r) = some (n, r) := by
  have hdigits : ∀ c ∈ Text.decimal n, c.isDigit = true := fun _ hc => Text.isDigit_of_mem_digitsIn hc
  have hne : (Text.decimal n).isEmpty = false := by
    simp [Text.decimal, Text.digitsIn, Text.ofChars, Nat.toDigits_ne_nil]
  unfold number?
  rw [takeWhile_append_stop hdigits hr, dropWhile_append_stop hdigits hr]
  simp only [hne, ofDigits_decimal]
  rfl

/-- A bound is read as it is written. -/
theorem sign?_bounds {least most : Nat} (h : least ≤ most) (r : Text) :
    sign? (.char '\x7b' :: (Text.decimal least
        ++ .char ',' :: (Text.decimal most ++ .char '\x7d' :: r)))
      = some (.times least most, r) := by
  have hleast := number?_decimal least (r := .char ',' :: (Text.decimal most ++ .char '\x7d' :: r))
    (by rintro c ⟨⟩; rfl)
  have hmost := number?_decimal most (r := .char '\x7d' :: r) (by rintro c ⟨⟩; rfl)
  show bounds? _ = _
  unfold bounds?
  simp only [hleast, hmost, Nat.not_lt.2 h, if_false]

/-! ## Texts that an expression describes -/

namespace Pattern

variable {s : Text} {p q : Pattern}

theorem mem_language_pow_digit {n : Nat} :
    s ∈ digit.language ^ n ↔ s.length = n ∧ ∀ c ∈ s, c.isDigit = true := by
  induction n generalizing s with
  | zero =>
    rw [pow_zero, Language.mem_one, List.length_eq_zero_iff]
    constructor
    · rintro rfl
      simp
    · exact And.left
  | succ n ih =>
    rw [pow_succ', Language.mem_mul]
    constructor
    · rintro ⟨a, ⟨c, rfl, hc⟩, t, ht, rfl⟩
      obtain ⟨hlength, hdigits⟩ := ih.1 ht
      simp only [List.singleton_append, List.length_cons, hlength, List.forall_mem_cons]
      exact ⟨trivial, hc, hdigits⟩
    · rintro ⟨hlength, hdigits⟩
      obtain ⟨c, t, rfl⟩ := List.exists_cons_of_length_eq_add_one hlength
      rw [List.forall_mem_cons] at hdigits
      rw [List.length_cons, Nat.add_right_cancel_iff] at hlength
      exact ⟨[c], ⟨c, rfl, hdigits.1⟩, t, ih.2 ⟨hlength, hdigits.2⟩, rfl⟩

/-- A bounded number of digits. -/
theorem mem_language_digits {least most : Nat} : s ∈ (times digit least most).language ↔
    (least ≤ s.length ∧ s.length ≤ most) ∧ ∀ c ∈ s, c.isDigit = true := by
  constructor
  · rintro ⟨n, hleast, hmost, hs⟩
    obtain ⟨rfl, hdigits⟩ := mem_language_pow_digit.1 hs
    exact ⟨⟨hleast, hmost⟩, hdigits⟩
  · rintro ⟨⟨hleast, hmost⟩, hdigits⟩
    exact ⟨s.length, hleast, hmost, mem_language_pow_digit.2 ⟨rfl, hdigits⟩⟩

/-- A piece with a question mark. -/
theorem mem_language_optional : s ∈ (times p 0 1).language ↔ s = [] ∨ s ∈ p.language := by
  constructor
  · rintro ⟨n, -, hn, hs⟩
    obtain rfl | rfl : n = 0 ∨ n = 1 := by omega
    · rw [pow_zero, Language.mem_one] at hs
      exact .inl hs
    · rw [pow_one] at hs
      exact .inr hs
  · rintro (rfl | hs)
    · exact ⟨0, by omega, by omega, by rw [pow_zero]; exact Language.nil_mem_one⟩
    · exact ⟨1, by omega, by omega, by rwa [pow_one]⟩

@[simp] theorem language_seq_empty (p : Pattern) : (seq p empty).language = p.language :=
  mul_one p.language

theorem mem_language_char_seq {c : CodePoint} :
    s ∈ (seq (char c) q).language ↔ ∃ t ∈ q.language, s = c :: t := by
  constructor
  · rintro ⟨a, rfl, t, ht, rfl⟩
    exact ⟨t, ht, rfl⟩
  · rintro ⟨t, ht, rfl⟩
    exact ⟨[c], rfl, t, ht, rfl⟩

/-- Digits and what stands behind them are told apart by the first character that is no digit. -/
theorem mem_language_digits_seq {least most : Nat} {a t : Text}
    (ha : ∀ c ∈ a, c.isDigit = true) (ht : ∀ c ∈ t.head?, c.isDigit = false)
    (hq : ∀ u ∈ q.language, ∀ c ∈ u.head?, c.isDigit = false) :
    a ++ t ∈ (seq (times digit least most) q).language ↔
      a ∈ (times digit least most).language ∧ t ∈ q.language := by
  constructor
  · rintro ⟨b, hb, u, hu, heq⟩
    have hdigits := (mem_language_digits.1 hb).2
    have hfront := congrArg (List.takeWhile CodePoint.isDigit) heq
    dsimp only at hfront
    rw [takeWhile_append_stop hdigits (hq u hu), takeWhile_append_stop ha ht] at hfront
    subst hfront
    obtain rfl := List.append_cancel_left heq
    exact ⟨hb, hu⟩
  · rintro ⟨ha, ht⟩
    exact ⟨a, ha, t, ht, rfl⟩

end Pattern

end ValidatorGen.Script
