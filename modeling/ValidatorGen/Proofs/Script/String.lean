import ValidatorGen.DefaultLiteral
import ValidatorGen.Json.Reader
import ValidatorGen.Proofs.Script.Literal

/-!
# String literals in full

All that ECMAScript allows in a string literal of a module: characters as they are, escapes by a
letter or by a number, and lines continued behind a backslash.  An escape by a number stands for the
code point of that number.

* `stringRest_escapeOne` — a character is read as it was written, unless it ends a line;
* `stringRest_escapeFor` — so text is read as it was written, or not at all;
* `string?_render?` — a default that is a text is read again exactly if no line ends in it.
-/

namespace ValidatorGen.Script

/-! ## Escapes -/

/-- The code point whose number these digits of base sixteen are. -/
def codePoint? (ds : Text) : Option CodePoint :=
  if ds.isEmpty then none
  else (ds.mapM Json.hexDigit?).bind fun ns =>
    if Text.ofDigits 16 ns < 0x110000 then some (.ofNat (Text.ofDigits 16 ns)) else none

/-- An escape by a number of so many digits. -/
def numbered? (n : Nat) (s : Text) : Option (Text × Text) :=
  if n ≤ s.length then (codePoint? (s.take n)).map fun c => ([c], s.drop n) else none

/-- An escape by a number up to a closing brace. -/
def braced? (s : Text) : Option (Text × Text) :=
  match s.dropWhile (!·.is '\x7d') with
  | _ :: r => (codePoint? (s.takeWhile (!·.is '\x7d'))).map fun c => ([c], r)
  | [] => none

/-- A line that goes on may be broken here. -/
def isBreak (c : CodePoint) : Bool := endsLine c || c = '\u2028' || c = '\u2029'

/-- Behind a backslash: what the escape that starts with `c` stands for, and the text behind it. -/
def escape? (c : CodePoint) (r : Text) : Option (Text × Text) :=
  if c = 'x' then numbered? 2 r
  else if c = 'u' then
    match r with
    | .char '\x7b' :: r => braced? r
    | r => numbered? 4 r
  else if c = '0' then
    if r.head?.any CodePoint.isDigit then none else some (['\x00'], r)
  else if c = '\r' ∧ r.head? = some '\n' then some ([], r.tail)
  else if isBreak c then some ([], r)
  else (escaped? c).map fun v => ([v], r)

theorem length_le_of_numbered? {n : Nat} {s v r : Text} (h : numbered? n s = some (v, r)) :
    r.length ≤ s.length := by
  unfold numbered? at h
  split_ifs at h
  obtain ⟨c, -, hc⟩ := Option.map_eq_some_iff.1 h
  cases hc
  simp

theorem length_le_of_braced? {s v r : Text} (h : braced? s = some (v, r)) :
    r.length ≤ s.length := by
  unfold braced? at h
  split at h
  · rename_i b t hs
    obtain ⟨c, -, hc⟩ := Option.map_eq_some_iff.1 h
    cases hc
    have hle := (s.dropWhile_suffix (!·.is '\x7d')).length_le
    rw [hs, List.length_cons] at hle
    omega
  · exact absurd h (by simp)

theorem length_le_of_escape? {c : CodePoint} {s v r : Text} (h : escape? c s = some (v, r)) :
    r.length ≤ s.length := by
  unfold escape? at h
  split_ifs at h
  · exact length_le_of_numbered? h
  · split at h
    · have := length_le_of_braced? h
      simp only [List.length_cons]
      omega
    · exact length_le_of_numbered? h
  · cases h
    exact Nat.le_refl _
  · cases h
    simp
  · cases h
    exact Nat.le_refl _
  · obtain ⟨d, -, hd⟩ := Option.map_eq_some_iff.1 h
    cases hd
    exact Nat.le_refl _

/-! ## Literals -/

/-- Behind an opening quote `q`: the value of the literal, and the text behind it. -/
def stringRest (q : CodePoint) : Text → Option (Text × Text)
  | [] => none
  | c :: r =>
    if c = q then some ([], r)
    else if endsLine c then none
    else if c = '\\' then
      match r with
      | [] => none
      | d :: r =>
        match h : escape? d r with
        | none => none
        | some (v, t) =>
          have := length_le_of_escape? h
          (stringRest q t).map fun x => (v ++ x.1, x.2)
    else (stringRest q r).map fun x => (c :: x.1, x.2)
termination_by s => s.length
decreasing_by
  all_goals simp only [List.length_cons]
  · omega
  · omega

/-- The literal that a text starts with: its value, and the text behind it. -/
def string? : Text → Option (Text × Text)
  | [] => none
  | c :: r => if IsQuote c then stringRest c r else none

section

variable {q c : CodePoint} (r : Text)

theorem stringRest_quote : stringRest q (q :: r) = some ([], r) := by
  rw [stringRest.eq_def]
  exact if_pos rfl

theorem stringRest_of_endsLine (hq : c ≠ q) (h : endsLine c = true) :
    stringRest q (c :: r) = none := by
  rw [stringRest.eq_def]
  exact (if_neg hq).trans (if_pos h)

theorem stringRest_plain (hq : c ≠ q) (h : endsLine c = false) (hb : c ≠ '\\') :
    stringRest q (c :: r) = (stringRest q r).map fun x => (c :: x.1, x.2) := by
  rw [stringRest.eq_def]
  dsimp only
  rw [if_neg hq, h, if_neg Bool.false_ne_true, if_neg hb]

theorem stringRest_escape (hq : .char '\\' ≠ q) {v t : Text} (h : escape? c r = some (v, t)) :
    stringRest q (.char '\\' :: c :: r) = (stringRest q t).map fun x => (v ++ x.1, x.2) := by
  rw [stringRest.eq_def]
  dsimp only
  rw [if_neg hq, if_neg (by decide), if_pos rfl]
  split
  · rename_i h'
    cases h.symm.trans h'
  · rename_i h'
    cases h.symm.trans h'
    rfl

end

section

variable {q : CodePoint} (hq : IsQuote q)

include hq

theorem escape?_of_isQuote (r : Text) : escape? q r = some ([q], r) := by
  rcases hq with rfl | rfl <;> rfl

/-- A character is read as it was written, unless it ends a line. -/
theorem stringRest_escapeOne (c : CodePoint) (r : Text) :
    stringRest q (Text.escapeOne q c ++ r) =
      if endsLine c then none else (stringRest q r).map fun x => (c :: x.1, x.2) := by
  have hb : .char '\\' ≠ q := by
    rcases hq with rfl | rfl <;> decide
  have hend : endsLine q = false := by
    rcases hq with rfl | rfl <;> decide
  unfold Text.escapeOne
  split_ifs with hc h h
  · -- neither the backslash nor the quote ends a line
    rcases hc with rfl | rfl
    · exact absurd h (by decide)
    · exact absurd h (by simp [hend])
  · have hescape : escape? c r = some ([c], r) := by
      rcases hc with rfl | rfl
      · rfl
      · exact escape?_of_isQuote hq r
    exact stringRest_escape r hb hescape
  · exact stringRest_of_endsLine r (not_or.1 hc).2 h
  · exact stringRest_plain r (not_or.1 hc).2 (eq_false_of_ne_true h) (not_or.1 hc).1

/-- Text is read as it was written, or not at all. -/
theorem stringRest_escapeFor (s r : Text) :
    stringRest q (Text.escapeFor q s ++ r) =
      if s.any endsLine then none else (stringRest q r).map fun x => (s ++ x.1, x.2) := by
  induction s with
  | nil => simp
  | cons c s ih =>
    rw [Text.escapeFor_cons, List.append_assoc, stringRest_escapeOne hq, ih, List.any_cons]
    cases endsLine c with
    | true => rfl
    | false =>
      cases s.any endsLine with
      | true => rfl
      | false => cases stringRest q r <;> rfl

theorem string?_quoted (s r : Text) :
    string? (q :: (Text.escapeFor q s ++ q :: r)) =
      if s.any endsLine then none else some (s, r) := by
  rw [string?, if_pos hq, stringRest_escapeFor hq, stringRest_quote]
  simp

end

/-! ## Defaults -/

theorem string?_quoteDouble (s r : Text) :
    string? (Text.quoteDouble s ++ r) = if s.any endsLine then none else some (s, r) := by
  have htext : Text.quoteDouble s ++ r
      = .char '"' :: (Text.escapeFor '"' s ++ .char '"' :: r) := by
    unfold Text.quoteDouble Text.escapeDouble
    rw [List.append_assoc, List.append_assoc]
    rfl
  rw [htext, string?_quoted (.inr rfl)]

/-- **Reading a default.**  A default that is a text is written as a literal.  Reading it gives the
text again and leaves what stands behind it, exactly if no line ends in the text; otherwise there is
no literal to be read. -/
theorem string?_render? (v r : Text) :
    ∃ l, (Literal.text v).render? = some l ∧
      string? (l ++ r) = if v.any endsLine then none else some (v, r) :=
  ⟨Text.quoteDouble v, rfl, string?_quoteDouble v r⟩

/-- A line feed in a default ends the line that its literal stands in. -/
theorem not_string?_render? :
    let v : Text := "a\nb"
    ∃ l, (Literal.text v).render? = some l ∧ l = "\"a\nb\"" ∧ string? (l ++ ")") = none := by
  intro v
  exact ⟨Text.quoteDouble v, rfl, by decide, string?_quoteDouble v ")"⟩

/-- Escapes by numbers, and a line that goes on. -/
example :
    let text : Text := "\"\\x41\\u\x7b1F600\x7d\\\r\nb\\0\", c"
    let value : Text := "A😀b\x00"
    let rest : Text := ", c"
    string? text = some (value, rest) := by
  decide +kernel

end ValidatorGen.Script
