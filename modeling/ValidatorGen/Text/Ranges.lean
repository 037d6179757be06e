/-!
# Sets of characters

A property of characters is a list of closed ranges of code points.  The tables of this library
hold the properties of Unicode 14.
-/

namespace ValidatorGen.Text

/-- Closed ranges of code points, ascending and apart. -/
abbrev Ranges := List (Nat × Nat)

/-- A code point lies in one of the ranges. -/
def Ranges.holds (rs : Ranges) (n : Nat) : Bool :=
  rs.any fun r => r.1 ≤ n && n ≤ r.2

theorem Ranges.holds_iff {rs : Ranges} {n : Nat} :
    rs.holds n = true ↔ ∃ r ∈ rs, r.1 ≤ n ∧ n ≤ r.2 := by
  simp [Ranges.holds]

end ValidatorGen.Text
