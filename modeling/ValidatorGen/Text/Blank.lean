import ValidatorGen.Text.CodePoint

/-!
# White space

The blank characters are the white space of Unicode and the four information separators.
`trim` drops them at both ends of a text and nowhere else; around numbers `trimSpace` drops the
white space alone.
-/

namespace ValidatorGen.Text

/-- A white-space character or an information separator. -/
def isBlank (c : CodePoint) : Bool :=
  let n := c.toNat
  (0x09 ≤ n && n ≤ 0x0D) || (0x1C ≤ n && n ≤ 0x20) || n == 0x85 || n == 0xA0 || n == 0x1680
    || (0x2000 ≤ n && n ≤ 0x200A) || n == 0x2028 || n == 0x2029 || n == 0x202F || n == 0x205F
    || n == 0x3000

theorem isBlank_of_isWhitespace {c : Char} (h : c.isWhitespace = true) : isBlank c = true := by
  simp [Char.isWhitespace] at h
  rcases h with ((h | h) | h) | h <;> subst h <;> decide

/-! ### Trimming -/

def trimStart (s : Text) : Text := s.dropWhile isBlank

def trimEnd (s : Text) : Text := (s.reverse.dropWhile isBlank).reverse

/-- The text without blanks at its ends. -/
def trim (s : Text) : Text := trimEnd (trimStart s)

@[simp] theorem trimStart_nil : trimStart [] = [] := rfl

@[simp] theorem trimEnd_nil : trimEnd [] = [] := rfl

@[simp] theorem trim_nil : trim [] = [] := rfl

theorem trimStart_cons_of_not_isBlank {c : CodePoint} {s : Text} (h : isBlank c = false) :
    trimStart (c :: s) = c :: s := by
  simp [trimStart, h]

theorem trimEnd_append_of_not_isBlank {c : CodePoint} {s : Text} (h : isBlank c = false) :
    trimEnd (s ++ [c]) = s ++ [c] := by
  simp [trimEnd, h]

theorem length_trimStart_le (s : Text) : (trimStart s).length ≤ s.length :=
  (s.dropWhile_suffix isBlank).length_le

/-- A white-space character. -/
def isSpace (c : CodePoint) : Bool := isBlank c && !(0x1C ≤ c.toNat && c.toNat ≤ 0x1F)

/-- The text without white space at its ends. -/
def trimSpace (s : Text) : Text :=
  ((s.dropWhile isSpace).reverse.dropWhile isSpace).reverse

/-- A text without a character that is not blank. -/
def isBlankText (s : Text) : Bool := s.all isBlank

end ValidatorGen.Text
