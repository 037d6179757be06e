import ValidatorGen.Directive.Bracket
import ValidatorGen.Text.Numeral

/-!
# Chains of calls

`.max(64).iso.date()` is a chain of two calls, `max(64)` and `iso.date()`.  `calls` reads calls
from the start of a text, blanks between them allowed, and stops where no further call starts.
-/

namespace ValidatorGen.Directive

/-- A call: its name, and the text from the name to the closing bracket. -/
structure Call where
  name : Text
  text : Text
  deriving DecidableEq, Repr

/-- A character of a dotted name. -/
def isNameChar (c : CodePoint) : Bool := Text.isAlphanumeric c || c == '_' || c == '$' || c == '.'

/-- A name without the dots at its end. -/
def dropDots (s : Text) : Text := (s.reverse.dropWhile (·.is '.')).reverse

/-- Reads one call, its leading dot included; the rest starts with no blank. -/
def call? : Text → Option (Call × Text)
  | .char '.' :: s =>
    let raw := s.takeWhile isNameChar
    let name := dropDots raw
    match name, s.dropWhile isNameChar with
    | _ :: _, .char '(' :: r =>
      (close? 0 '(' r).map fun p =>
        (⟨name, raw ++ "(" ++ p.1⟩, p.2.dropWhile Text.isBlank)
    | _, _ => none
  | _ => none

theorem call?_length_lt {s r : Text} {c : Call} (h : call? s = some (c, r)) :
    r.length < s.length := by
  unfold call? at h
  split at h
  · rename_i s
    dsimp only at h
    split at h
    · rename_i t hd
      simp only [Option.map_eq_some_iff, Prod.mk.injEq] at h
      obtain ⟨⟨x, y⟩, hp, _, rfl⟩ := h
      have h1 := close?_length_lt hp
      have h2 := (y.dropWhile_suffix Text.isBlank).length_le
      have h3 := (s.dropWhile_suffix isNameChar).length_le
      simp [hd] at h3 ⊢
      omega
    · simp at h
  · simp at h

/-- The calls at the start of a text. -/
def calls (s : Text) : List Call :=
  match h : call? s with
  | none => []
  | some (c, r) =>
    have := call?_length_lt h
    c :: calls r
termination_by s.length

/-- The calls of a chain, blanks around it apart. -/
def splitChain (chain : Text) : List Call := calls (Text.trim chain)

end ValidatorGen.Directive
