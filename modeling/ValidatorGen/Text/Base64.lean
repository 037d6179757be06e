import ValidatorGen.Text.CodePoint

/-!
# Base 64

Four characters stand for three bytes.  Characters that stand for nothing are passed over; equals
signs fill up the last group and end the text.
-/

namespace ValidatorGen.Text.Base64

/-- The six bits that a character stands for. -/
def sextet? (c : CodePoint) : Option Nat :=
  if 'A' ≤ c ∧ c ≤ 'Z' then some (c.toNat - 'A'.toNat)
  else if 'a' ≤ c ∧ c ≤ 'z' then some (c.toNat - 'a'.toNat + 26)
  else if '0' ≤ c ∧ c ≤ '9' then some (c.toNat - '0'.toNat + 52)
  else if c = '+' then some 62
  else if c = '/' then some 63
  else none

/-- Reads on behind the first `count` characters of a group, of which the bits `left` are not part
of a byte yet, and behind `pads` equals signs. -/
def decodeFrom (count left pads : Nat) : Text → Option (List UInt8)
  | [] => if count = 0 then some [] else none
  | c :: r =>
    if c = '=' then
      if count < 2 then decodeFrom count left pads r
      else if 4 ≤ count + pads + 1 then some []
      else decodeFrom count left (pads + 1) r
    else match sextet? c with
      | none => decodeFrom count left pads r
      | some v =>
        match count with
        | 0 => decodeFrom 1 v 0 r
        | 1 => (decodeFrom 2 (v % 16) 0 r).map (UInt8.ofNat (left * 4 + v / 16) :: ·)
        | 2 => (decodeFrom 3 (v % 4) 0 r).map (UInt8.ofNat (left * 16 + v / 4) :: ·)
        | _ => (decodeFrom 0 0 0 r).map (UInt8.ofNat (left * 64 + v) :: ·)

/-- The bytes that a text stands for. -/
def decode? (s : Text) : Option (List UInt8) := decodeFrom 0 0 0 s

end ValidatorGen.Text.Base64
