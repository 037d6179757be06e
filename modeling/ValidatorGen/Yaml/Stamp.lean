import ValidatorGen.Decimal.Read
import ValidatorGen.Document.Value
import ValidatorGen.Yaml.Fault

/-!
# Timestamps

A timestamp is a day, `2020-01-31`, or a day and a time with an optional fraction of a second and
an optional zone, `2020-01-31T23:59:59.5+02:00`.
-/

namespace ValidatorGen.Yaml

/-- A time as it is written; the zone is its offset in seconds. -/
structure Clock where
  hour : Nat
  minute : Nat
  second : Nat
  /-- The digits behind the point. -/
  fraction : List Nat
  offset? : Option Int
  deriving Repr

structure Stamp where
  date : Date
  clock? : Option Clock
  /-- Month and day have two digits each. -/
  isFull : Bool
  deriving Repr

namespace Stamp

/-- Takes a number of at least `least` digits, and of at most `most`. -/
def digits? (least most : Nat) (s : Text) : Option (Nat × Nat × Text) :=
  let ds := (s.take most).takeWhile CodePoint.isDigit
  if ds.length < least then none
  else some (Text.ofDigits 10 (Decimal.digitsOf ds), ds.length, s.drop ds.length)

/-- Takes one character. -/
def sign? (c : CodePoint) : Text → Option Text
  | d :: r => if d = c then some r else none
  | [] => none

def isGap (c : CodePoint) : Bool := c = ' ' || c = '\t'

/-- Takes what stands between a day and a time. -/
def gap? (s : Text) : Option Text :=
  match s with
  | .char 'T' :: r => some r
  | .char 't' :: r => some r
  | s =>
    let n := (s.takeWhile isGap).length
    if n = 0 then none else some (s.drop n)

/-- The zone that a text consists of; no text is no zone. -/
def zone? (s : Text) : Option (Option Int) := do
  if s.isEmpty then return none
  match s.dropWhile isGap with
  | [.char 'Z'] => return some 0
  | c :: r => do
    guard (c = '+' ∨ c = '-')
    let (hours, _, r) ← digits? 1 2 r
    let minutes ← if r.isEmpty then some 0 else do
      let (minutes, _, r) ← digits? 2 2 (← sign? ':' r)
      guard r.isEmpty
      pure minutes
    let n : Int := hours * 3600 + minutes * 60
    return some (if c = '-' then -n else n)
  | [] => none

/-- The time that a text consists of. -/
def clockOf? (s : Text) : Option Clock := do
  let (hour, _, r) ← digits? 1 2 s
  let (minute, _, r) ← digits? 2 2 (← sign? ':' r)
  let (second, _, r) ← digits? 2 2 (← sign? ':' r)
  let (fraction, r) := match r with
    | .char '.' :: r => (r.takeWhile CodePoint.isDigit, r.dropWhile CodePoint.isDigit)
    | r => ([], r)
  pure ⟨hour, minute, second, Decimal.digitsOf fraction, ← zone? r⟩

/-- The timestamp that a text consists of. -/
def ofText? (s : Text) : Option Stamp := do
  let (year, _, r) ← digits? 4 4 s
  let (month, m, r) ← digits? 1 2 (← sign? '-' r)
  let (day, d, r) ← digits? 1 2 (← sign? '-' r)
  let clock? ← if r.isEmpty then some none else (clockOf? (← gap? r)).map some
  pure ⟨⟨year, month, day⟩, clock?, m = 2 ∧ d = 2⟩

/-- A day alone has to be written in full; then, or with a time, a text without a tag is a
timestamp. -/
def isPlain (t : Stamp) : Bool := t.isFull || t.clock?.isSome

/-- The microseconds that the digits behind a point stand for. -/
def micro (fraction : List Nat) : Nat :=
  Text.ofDigits 10 ((fraction ++ List.replicate 6 0).take 6)

/-- The day or moment of a timestamp. -/
def value (t : Stamp) : Except Fault Document :=
  match t.clock? with
  | none =>
    match t.date.fault? with
    | some f => .error (.calendar f)
    | none => .ok (.date t.date)
  | some k =>
    let m : Moment := ⟨t.date, k.hour, k.minute, k.second, micro k.fraction, k.offset?⟩
    match k.offset?.filter fun s => 86400 ≤ s.natAbs, m.fault? with
    | some s, _ => .error (.offset s)
    | none, some f => .error (.calendar f)
    | none, none => .ok (.moment m)

end Stamp

end ValidatorGen.Yaml
