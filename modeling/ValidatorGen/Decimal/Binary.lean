/-!
# Doubles and exact numbers

A double is a whole number of powers of two, an infinity, or no number.  `nearest` goes the other
way: it gives the double nearest to a fraction, the one with the even mantissa of two.
-/

namespace ValidatorGen.Decimal

/-- What a double stands for; the finite ones are `± m · 2 ^ e`. -/
inductive Binary
  | finite (negative : Bool) (m : Nat) (e : Int)
  | infinite (negative : Bool)
  | nan
  deriving DecidableEq, Repr

/-- Takes the 64 bits of a double apart. -/
def Binary.ofBits (bits : Nat) : Binary :=
  let negative : Bool := Nat.pow 2 63 ≤ bits
  let e : Nat := bits / Nat.pow 2 52 % Nat.pow 2 11
  let m := bits % Nat.pow 2 52
  if e = 2047 then (if m = 0 then .infinite negative else .nan)
  else if e = 0 then .finite negative m (-1074)
  else .finite negative (Nat.pow 2 52 + m) ((e : Int) - 1075)

def Binary.ofFloat (x : Float) : Binary := .ofBits x.toBits.toNat

/-- The whole number that a double is, if it is one. -/
def Binary.whole? : Binary → Option Int
  | .finite s m e =>
    let n? : Option Nat :=
      if 0 ≤ e then some (m * Nat.pow 2 e.toNat)
      else if m % Nat.pow 2 (-e).toNat = 0 then some (m / Nat.pow 2 (-e).toNat) else none
    n?.map fun n => if s then -(n : Int) else n
  | _ => none

/-- The quotient rounded to the nearest whole number, of two the even one. -/
def roundDiv (num den : Nat) : Nat :=
  let q := num / den
  let r := num % den
  if 2 * r < den then q else if den < 2 * r then q + 1 else q + q % 2

/-- A rounded quotient is off by no more than half a unit. -/
theorem roundDiv_near {num den : Nat} (h : 0 < den) :
    2 * num ≤ 2 * (roundDiv num den * den) + den ∧
      2 * (roundDiv num den * den) ≤ 2 * num + den := by
  have hd := Nat.div_add_mod num den
  have hr := Nat.mod_lt num h
  rw [Nat.mul_comm] at hd
  have h2 : num / den % 2 = 0 ∨ num / den % 2 = 1 := Nat.mod_two_eq_zero_or_one _
  unfold roundDiv
  dsimp only
  split
  · omega
  · split
    · rw [Nat.add_mul]
      omega
    · rcases h2 with h2 | h2 <;> rw [h2, Nat.add_mul] <;> omega

/-- The bits of the double nearest to `num / den`; too large a fraction gives infinity. -/
def nearestBits (num den : Nat) : Nat :=
  let e₀ : Int := max ((num.log2 : Int) - den.log2 - 53) (-1074)
  let scaled (e : Int) : Nat :=
    if 0 ≤ e then roundDiv num (den * Nat.pow 2 e.toNat)
    else roundDiv (num * Nat.pow 2 (-e).toNat) den
  let e := if Nat.pow 2 53 ≤ scaled e₀ then e₀ + 1 else e₀
  min ((e + 1074).toNat * Nat.pow 2 52 + scaled e) (2047 * Nat.pow 2 52)

/-- The double nearest to `± n · 10 ^ x`. -/
def ofDecimal (negative : Bool) (n : Nat) (x : Int) : Float :=
  let size : Int := (Nat.toDigits 10 n).length + x
  let bits :=
    if n = 0 ∨ size < -400 then 0
    else if 400 < size then 2047 * Nat.pow 2 52
    else if 0 ≤ x then nearestBits (n * Nat.pow 10 x.toNat) 1
    else nearestBits n (Nat.pow 10 (-x).toNat)
  Float.ofBits (UInt64.ofNat (bits + if negative then Nat.pow 2 63 else 0))

end ValidatorGen.Decimal
