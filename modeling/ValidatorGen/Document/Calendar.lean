import ValidatorGen.Text.Whole

/-!
# Days and moments

A day of the proleptic Gregorian calendar, and a moment: a day, a time of the day in microseconds,
and, if the zone is known, its offset from universal time in seconds.
-/

namespace ValidatorGen

/-- A day of the calendar, of the years 1 to 9999. -/
structure Date where
  year : Nat
  month : Nat
  day : Nat
  deriving DecidableEq, Repr

/-- A time of the day, on a day. -/
structure Moment where
  date : Date
  hour : Nat
  minute : Nat
  second : Nat
  micro : Nat
  offset? : Option Int
  deriving DecidableEq, Repr

/-- A number with zeros in front up to a width. -/
def padded (width n : Nat) : Text :=
  let ds := Text.decimal n
  Text.repeated (width - ds.length) '0' ++ ds

namespace Date

def isLeap (year : Nat) : Bool := year % 4 = 0 && (year % 100 ≠ 0 || year % 400 = 0)

def daysIn (year month : Nat) : Nat :=
  if month = 2 then (if isLeap year then 29 else 28)
  else if month ∈ [4, 6, 9, 11] then 30 else 31

/-- How many days lie between the start of the calendar and a day. -/
def ordinal (d : Date) : Nat :=
  let y := d.year - 1
  365 * y + y / 4 - y / 100 + y / 400
    + (List.range (d.month - 1)).foldr (fun m n => daysIn d.year (m + 1) + n) 0 + d.day

/-- What is wrong with a day that is not in the calendar. -/
def fault? (d : Date) : Option Text :=
  if d.year < 1 ∨ 9999 < d.year then some ("year " ++ Text.decimal d.year ++ " is out of range")
  else if d.month < 1 ∨ 12 < d.month then some "month must be in 1..12"
  else if d.day < 1 ∨ daysIn d.year d.month < d.day then some "day is out of range for month"
  else none

/-- The written form. -/
def text (d : Date) : Text :=
  padded 4 d.year ++ "-" ++ padded 2 d.month ++ "-" ++ padded 2 d.day

/-- The parts, separated by commas. -/
def parts (d : Date) : Text :=
  Text.decimal d.year ++ ", " ++ Text.decimal d.month ++ ", " ++ Text.decimal d.day

end Date

namespace Moment

/-- What is wrong with a moment that does not exist. -/
def fault? (m : Moment) : Option Text :=
  match m.date.fault? with
  | some f => some f
  | none =>
    if 23 < m.hour then some "hour must be in 0..23"
    else if 59 < m.minute then some "minute must be in 0..59"
    else if 59 < m.second then some "second must be in 0..59"
    else none

/-- Universal time in microseconds, if the zone is known. -/
def instant? (m : Moment) : Option Int :=
  m.offset?.map fun offset =>
    (((m.date.ordinal * 24 + m.hour) * 60 + m.minute) * 60 + m.second - offset) * 1000000 + m.micro

/-- Two moments are one: those with a zone by universal time, the others by their parts. -/
def same (m n : Moment) : Bool :=
  match m.instant?, n.instant? with
  | some a, some b => a = b
  | none, none => m = n
  | _, _ => false

/-- An offset from universal time, `+05:30`. -/
def offsetText (seconds : Int) : Text :=
  let n := seconds.natAbs
  let sign : Text := if seconds < 0 then "-" else "+"
  let rest : Text := if n % 60 = 0 then "" else ":" ++ padded 2 (n % 60)
  sign ++ padded 2 (n / 3600) ++ ":" ++ padded 2 (n / 60 % 60) ++ rest

/-- The written form, with `sep` between day and time. -/
def text (sep : Text) (m : Moment) : Text :=
  let fraction : Text := if m.micro = 0 then "" else "." ++ padded 6 m.micro
  m.date.text ++ sep ++ padded 2 m.hour ++ ":" ++ padded 2 m.minute ++ ":" ++ padded 2 m.second
    ++ fraction ++ ((m.offset?.map offsetText).getD "")

/-- A span of time, as it is shown inside other values. -/
def spanText (seconds : Int) : Text :=
  let part (name : Text) (n : Int) : List Text :=
    if n = 0 then [] else [name ++ "=" ++ Text.signedDecimal n]
  let parts := part "days" (seconds.fdiv 86400) ++ part "seconds" (seconds.fmod 86400)
  "datetime.timedelta(" ++ (if parts.isEmpty then ("0" : Text) else Text.join ", " parts) ++ ")"

/-- A zone with this offset, as it is shown inside other values. -/
def zoneText (seconds : Int) : Text :=
  if seconds = 0 then "datetime.timezone.utc"
  else "datetime.timezone(" ++ spanText seconds ++ ")"

/-- The parts, separated by commas; seconds and microseconds are left out if they are zero. -/
def parts (m : Moment) : Text :=
  let small : Text :=
    if m.micro ≠ 0 then ", " ++ Text.decimal m.second ++ ", " ++ Text.decimal m.micro
    else if m.second ≠ 0 then ", " ++ Text.decimal m.second else ""
  m.date.parts ++ ", " ++ Text.decimal m.hour ++ ", " ++ Text.decimal m.minute ++ small
    ++ ((m.offset?.map fun s => ", tzinfo=" ++ zoneText s).getD "")

end Moment

end ValidatorGen
