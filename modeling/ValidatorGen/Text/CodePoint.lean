/-!
# Texts

A text is a list of code points.  A code point is a character, or one half of a surrogate pair,
which an escape or the name of a file can hold alone; two halves that make a pair are a character.
String and character literals stand for the texts and code points that they name.
-/

namespace ValidatorGen

/-- A character, or one of the 2048 halves of surrogate pairs. -/
inductive CodePoint
  | char (c : Char)
  | half (n : Fin 2048)
  deriving DecidableEq, Repr, Inhabited

/-- A sequence of code points. -/
abbrev Text := List CodePoint

namespace CodePoint

instance : Coe Char CodePoint := ⟨char⟩

/-- The first half, and how many halves there are. -/
def firstHalf : Nat := 0xD800

/-- The number of a code point. -/
def toNat : CodePoint → Nat
  | char c => c.toNat
  | half n => firstHalf + n

/-- The code point of a number below `0x110000`. -/
def ofNat (n : Nat) : CodePoint :=
  if n.isValidChar then char (Char.ofNat n) else half (Fin.ofNat 2048 (n - firstHalf))

def isHalf : CodePoint → Bool
  | char _ => false
  | half _ => true

/-- The code point is this character. -/
def is (c : Char) (p : CodePoint) : Bool := p = char c

instance : LE CodePoint := ⟨fun a b => a.toNat ≤ b.toNat⟩

instance : LT CodePoint := ⟨fun a b => a.toNat < b.toNat⟩

instance (a b : CodePoint) : Decidable (a ≤ b) := inferInstanceAs (Decidable (a.toNat ≤ b.toNat))

instance (a b : CodePoint) : Decidable (a < b) := inferInstanceAs (Decidable (a.toNat < b.toNat))

/-! ### ASCII -/

/-- A digit from `0` to `9`. -/
def isDigit : CodePoint → Bool
  | char c => c.isDigit
  | half _ => false

/-- A letter of ASCII. -/
def isAlpha : CodePoint → Bool
  | char c => c.isAlpha
  | half _ => false

/-- A letter or a digit of ASCII. -/
def isAlphanum (c : CodePoint) : Bool := c.isAlpha || c.isDigit

/-- A letter of ASCII in lower case; all else stays. -/
def toLower : CodePoint → CodePoint
  | char c => char c.toLower
  | half n => half n

/-- A letter of ASCII in upper case; all else stays. -/
def toUpper : CodePoint → CodePoint
  | char c => char c.toUpper
  | half n => half n

/-! ### Pairs of halves -/

/-- The number is that of a half that comes first in a pair. -/
def isHighHalf (n : Nat) : Bool := 0xD800 ≤ n && n < 0xDC00

/-- The number is that of a half that comes second in a pair. -/
def isLowHalf (n : Nat) : Bool := 0xDC00 ≤ n && n < 0xE000

/-- The number of the character that two halves make. -/
def joinHalves (high low : Nat) : Nat := 0x10000 + (high - 0xD800) * 0x400 + (low - 0xDC00)

theorem toNat_char (c : Char) : (char c).toNat = c.toNat := rfl

theorem toNat_half (n : Fin 2048) : (half n).toNat = firstHalf + n := rfl

theorem ofNat_toNat (p : CodePoint) : ofNat p.toNat = p := by
  cases p with
  | char c =>
    have h : c.toNat.isValidChar := c.valid
    rw [toNat_char, ofNat, if_pos h, Char.ofNat_toNat]
  | half n =>
    have h : ¬ (firstHalf + (n : Nat)).isValidChar := by
      have := n.isLt
      simp only [Nat.isValidChar, firstHalf]
      omega
    rw [toNat_half, ofNat, if_neg h, Nat.add_sub_cancel_left]
    exact congrArg half (Fin.ext (Nat.mod_eq_of_lt n.isLt))

end CodePoint

namespace Text

/-- The text of some characters. -/
def ofChars (cs : List Char) : Text := cs.map .char

/-- The text that a string holds. -/
def ofString (s : String) : Text := ofChars s.toList

instance : Coe String Text := ⟨ofString⟩

instance : LawfulBEq Text := inferInstanceAs (LawfulBEq (List CodePoint))

/-- A text with a half of a surrogate pair in it. -/
def hasHalf (s : Text) : Bool := s.any (·.isHalf)

/-- Texts one behind the other with a separator between them. -/
def join (sep : Text) (ts : List Text) : Text := List.intercalate sep ts

theorem join_singleton (sep t : Text) : join sep [t] = t := by simp [join]

theorem join_cons_cons (sep t u : Text) (ts : List Text) :
    join sep (t :: u :: ts) = t ++ (sep ++ join sep (u :: ts)) := by
  simp [join, List.intercalate]

/-- A code point a number of times. -/
def repeated (n : Nat) (c : CodePoint) : Text := List.replicate n c

/-- The digits of a number in a base, in lower case. -/
def digitsIn (base n : Nat) : Text := ofChars (Nat.toDigits base n)

/-- The text as a string, with an escape in place of each half of a surrogate pair. -/
def escaped (s : Text) : String :=
  .ofList (s.flatMap fun
    | .char c => [c]
    | c => '\\' :: 'u' :: Nat.toDigits 16 c.toNat)

end Text

end ValidatorGen
