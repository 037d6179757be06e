import ValidatorGen.Compile
import ValidatorGen.Proofs.Script.Pattern

/-!
# Numerals that a decimal column accepts

The refinement of a decimal column tests the written form of a number with a regular expression.

* `Numeral` — a number as it is written, without superfluous zeros in front;
* `tested?_numeralRefinement` — the expression is read as it is meant;
* `mem_language_numeralPattern_iff` — it counts the digits on both sides of the point;
* `accepts_decimalRefinement` — so that it accepts the numbers of the precision and the scale, one
  digit in front of the point being always free.
-/

namespace ValidatorGen.Compile

open Script

/-- A number as it is written: its whole part, and the digits behind the point.  Without such digits
there is no point. -/
structure Numeral where
  whole : Nat
  places : Text
  isDigit_of_mem : ∀ c ∈ places, c.isDigit = true := by decide

namespace Numeral

/-- The digits behind the point, with the point. -/
def tail (n : Numeral) : Text := if n.places = [] then [] else .char '.' :: n.places

def text (n : Numeral) : Text := Text.decimal n.whole ++ n.tail

/-- The written form of the whole part ends where the digits end. -/
theorem isDigit_head?_tail (n : Numeral) : ∀ c ∈ n.tail.head?, c.isDigit = false := by
  unfold tail
  split_ifs
  · simp
  · rintro c ⟨⟩
    rfl

end Numeral

/-! ## The expression -/

/-- At most `digits` digits in front of the point and at most `scale` behind it. -/
def numeralPattern (digits scale : Nat) : Pattern :=
  let places := .seq (.char '.') (.seq (.times .digit 1 scale) .empty)
  .seq (.times .digit 1 digits) (if scale = 0 then .empty else .seq (.times places 0 1) .empty)

theorem body?_digits {now : List Pattern} {around : List (List Pattern)} {most : Nat}
    (h : 1 ≤ most) (r : Text) :
    body? now around ("\\d\x7b1," ++ (Text.decimal most ++ ("\x7d" ++ r)))
      = body? (.times .digit 1 most :: now) around r := by
  have hdigit : sign? ("\\d\x7b1," ++ (Text.decimal most ++ ("\x7d" ++ r)))
      = some (.piece .digit, .char '\x7b' :: (Text.decimal 1
        ++ .char ',' :: (Text.decimal most ++ .char '\x7d' :: r))) := rfl
  rw [body?_cons hdigit rfl, body?_cons (sign?_bounds h r) rfl]

theorem body?_places {now : List Pattern} {scale : Nat} (h : 1 ≤ scale) :
    body? now [] ("(\\.\\d\x7b1," ++ (Text.decimal scale ++ "\x7d)?"))
      = some (.ofPieces (.times (.seq (.char '.') (.seq (.times .digit 1 scale) .empty)) 0 1
        :: now)) := by
  have hopens : sign? ("(\\.\\d\x7b1," ++ (Text.decimal scale ++ "\x7d)?"))
      = some (.opens, "\\.\\d\x7b1," ++ (Text.decimal scale ++ "\x7d)?")) := rfl
  have hpoint : sign? ("\\.\\d\x7b1," ++ (Text.decimal scale ++ "\x7d)?"))
      = some (.piece (.char '.'), "\\d\x7b1," ++ (Text.decimal scale ++ ("\x7d" ++ ")?"))) := rfl
  have hcloses : sign? ")?" = some (Sign.closes, ("?" : Text)) := rfl
  have hoptional : sign? "?" = some (Sign.times 0 1, []) := rfl
  rw [body?_cons hopens rfl, body?_cons hpoint rfl, body?_digits h, body?_cons hcloses rfl,
    body?_cons hoptional rfl, body?_nil]
  rfl

/-- The refinement holds the expression that is meant. -/
theorem tested?_numeralRefinement {digits : Nat} (h : 1 ≤ digits) (scale : Nat) :
    tested? (numeralRefinement digits scale) = some (numeralPattern digits scale) := by
  have hwritten : ∀ n : Nat, Text.signedDecimal n = Text.decimal n := by
    intro n
    rw [Text.signedDecimal, if_neg (by omega), Int.natAbs_natCast]
  have hbody : tested? (numeralRefinement digits scale)
      = body? [] [] ("\\d\x7b1," ++ (Text.decimal digits ++ (("\x7d" : Text) ++
        if (scale : Int) = 0 then ("" : Text)
        else "(\\.\\d\x7b1," ++ (Text.decimal scale ++ "\x7d)?")))) := by
    rw [← tested?_append]
    unfold numeralRefinement
    rw [hwritten, hwritten]
    simp only [List.append_assoc]
  rw [hbody, body?_digits h]
  unfold numeralPattern
  dsimp only
  by_cases hscale : scale = 0
  · rw [if_pos (by omega), if_pos hscale]
    exact body?_nil _
  · rw [if_neg (by omega), if_neg hscale, body?_places (by omega)]
    rfl

/-! ## What it describes -/

/-- The digits behind the point. -/
theorem mem_language_places_iff {scale : Nat} (n : Numeral) :
    n.tail ∈ (Pattern.times (.seq (.char '.') (.seq (.times .digit 1 scale) .empty)) 0 1).language
      ↔ n.places.length ≤ scale := by
  rw [Pattern.mem_language_optional, Pattern.mem_language_char_seq, Pattern.language_seq_empty]
  unfold Numeral.tail
  split_ifs with hplaces
  · simp [hplaces]
  · have hlength : 1 ≤ n.places.length := List.length_pos_iff.2 hplaces
    constructor
    · rintro (hnil | ⟨t, ht, heq⟩)
      · cases hnil
      · cases heq
        exact (Pattern.mem_language_digits.1 ht).1.2
    · intro h
      exact .inr ⟨_, Pattern.mem_language_digits.2 ⟨⟨hlength, h⟩, n.isDigit_of_mem⟩, rfl⟩

/-- The digits in front of it. -/
theorem mem_language_whole_iff {digits : Nat} (h : 1 ≤ digits) (n : Nat) :
    Text.decimal n ∈ (Pattern.times .digit 1 digits).language ↔ n < 10 ^ digits := by
  have hlength : (Text.decimal n).length = (Nat.toDigits 10 n).length := List.length_map _
  have hpos : 1 ≤ (Nat.toDigits 10 n).length := Nat.length_toDigits_pos
  rw [Pattern.mem_language_digits, hlength, Nat.length_toDigits_le_iff (by decide) h]
  constructor
  · intro hn
    exact hn.1.2
  · intro hn
    exact ⟨⟨hpos, hn⟩, fun _ hc => Text.isDigit_of_mem_digitsIn hc⟩

/-- The expression counts the digits on both sides of the point. -/
theorem mem_language_numeralPattern_iff {digits : Nat} (h : 1 ≤ digits) (scale : Nat)
    (n : Numeral) : n.text ∈ (numeralPattern digits scale).language ↔
      n.whole < 10 ^ digits ∧ n.places.length ≤ scale := by
  have hdigits : ∀ c ∈ Text.decimal n.whole, c.isDigit = true :=
    fun _ hc => Text.isDigit_of_mem_digitsIn hc
  unfold Numeral.text numeralPattern
  dsimp only
  split_ifs with hscale
  · -- without places nothing may stand behind the digits
    rw [Pattern.mem_language_digits_seq hdigits n.isDigit_head?_tail, mem_language_whole_iff h]
    · have hnone : n.tail ∈ Pattern.empty.language ↔ n.places.length ≤ scale := by
        rw [Pattern.language, Language.mem_one, hscale, Nat.le_zero, List.length_eq_zero_iff]
        unfold Numeral.tail
        split_ifs with hplaces <;> simp [hplaces]
      rw [hnone]
    · intro u hu
      rw [Pattern.language, Language.mem_one] at hu
      simp [hu]
  · rw [Pattern.mem_language_digits_seq hdigits n.isDigit_head?_tail, mem_language_whole_iff h,
      Pattern.language_seq_empty, mem_language_places_iff]
    intro u hu
    rw [Pattern.language_seq_empty, Pattern.mem_language_optional,
      Pattern.mem_language_char_seq] at hu
    rcases hu with rfl | ⟨t, -, rfl⟩
    · simp
    · rintro c ⟨⟩
      rfl

/-! ## The refinement -/

/-- **What the refinement of a decimal column accepts.**  It is there unless one of its numbers is too
long to be written, and it accepts the numbers that have no more digits behind the point than the
scale, and in front of it no more than the precision leaves, or one if it leaves none. -/
theorem accepts_decimalRefinement (precision : Int) {scale : Int} (hscale : 0 ≤ scale) :
    (decimalRefinement? precision scale = none ↔
        Text.isLong (max (precision - scale) 1) ∨ Text.isLong scale) ∧
      ∀ token, decimalRefinement? precision scale = some token →
        ∃ p, tested? token = some p ∧ ∀ n : Numeral, n.text ∈ p.language ↔
          n.whole < 10 ^ (max (precision - scale) 1).toNat ∧ n.places.length ≤ scale.toNat := by
  have hdigits : 0 ≤ max (precision - scale) 1 := by omega
  obtain ⟨k, rfl⟩ := Int.eq_ofNat_of_zero_le hscale
  obtain ⟨m, hm⟩ := Int.eq_ofNat_of_zero_le hdigits
  have hpos : 1 ≤ m := by omega
  have heq : decimalRefinement? precision k
      = if Text.isLong m || Text.isLong k then none else some (numeralRefinement m k) := by
    rw [← hm]
    rfl
  rw [heq, hm]
  constructor
  · split_ifs with hlong <;> simpa using hlong
  · intro token htoken
    split_ifs at htoken
    cases htoken
    exact ⟨_, tested?_numeralRefinement hpos k, mem_language_numeralPattern_iff hpos k⟩

/-- A price, and the longest numbers that a column for prices takes. -/
theorem accepts_decimalRefinement_price :
    (0 : Int) ≤ 2 ∧ ∃ token p, decimalRefinement? 10 2 = some token ∧ tested? token = some p ∧
      (⟨99999999, "95", by decide⟩ : Numeral).text ∈ p.language ∧
      (⟨100000000, "", by decide⟩ : Numeral).text ∉ p.language ∧
      (⟨0, "125", by decide⟩ : Numeral).text ∉ p.language := by
  have htoken : decimalRefinement? 10 2 = some (numeralRefinement 8 2) := by decide +kernel
  have hscale : (0 : Int) ≤ 2 := by decide
  obtain ⟨-, h⟩ := accepts_decimalRefinement 10 hscale
  obtain ⟨p, hp, haccepts⟩ := h _ htoken
  refine ⟨hscale, _, p, htoken, hp, ?_⟩
  simp only [haccepts]
  decide

/-- A column whose digits all stand behind the point accepts a number that it cannot hold. -/
theorem not_accepts_decimalRefinement :
    ∃ token p, decimalRefinement? 2 2 = some token ∧ tested? token = some p ∧
      (⟨5, "", by decide⟩ : Numeral).text ∈ p.language ∧ ¬ (5 : Nat) < 10 ^ (2 - 2) := by
  have htoken : decimalRefinement? 2 2 = some (numeralRefinement 1 2) := by decide +kernel
  refine ⟨_, _, htoken, tested?_numeralRefinement (by decide) 2, ?_, by decide⟩
  rw [mem_language_numeralPattern_iff (by decide)]
  decide

end ValidatorGen.Compile
