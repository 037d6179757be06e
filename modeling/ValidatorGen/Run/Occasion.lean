import ValidatorGen.Decimal.Fixed

/-!
# The occasion of a run

What a run takes from outside and cannot compute: the clock and a word that sets temporary files
apart.
-/

namespace ValidatorGen

structure Occasion where
  /-- The day and the time, as a manifest shows them. -/
  timestamp : Text
  /-- The time of day, as a line of the log shows it. -/
  clock : Text
  /-- How long each stage takes. -/
  seconds : Float
  word : Text
  deriving Repr

/-- The time that something takes; 0 before it is measured. -/
structure Timing where
  label : Text := "operation"
  seconds : Float := 0
  deriving Repr

/-- A one-line view of a time. -/
def Timing.describe (t : Timing) : Text :=
  "<Timer " ++ t.label ++ ": " ++ Decimal.fixed 4 t.seconds ++ "s>"

end ValidatorGen
