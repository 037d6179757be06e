import ValidatorGen.Text.CodePoint

/-!
# The journal of a run

What a run reports beside its result: an entry has a level, the part of the generator that speaks,
and a message.
-/

namespace ValidatorGen

inductive Level
  | info
  | warning
  | error
  deriving DecidableEq, Repr

namespace Level

/-- How a level is written. -/
def word : Level → Text
  | .info => "INFO"
  | .warning => "WARNING"
  | .error => "ERROR"

/-- A larger rank is graver. -/
def rank : Level → Nat
  | .info => 1
  | .warning => 2
  | .error => 3

end Level

/-- One report. -/
structure Entry where
  level : Level
  speaker : Text
  message : Text
  deriving DecidableEq, Repr

/-- The reports of a run, the first one first. -/
abbrev Journal := List Entry

/-- The entries of at least this rank. -/
def Journal.atLeast (rank : Nat) (j : Journal) : Journal := j.filter fun e => rank ≤ e.level.rank

end ValidatorGen
