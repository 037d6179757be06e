import ValidatorGen.Text.CodePoint

/-!
# UTF-8

`decode` reads bytes as UTF-8 and says of the first bad byte where it is and what is wrong with
it: a byte that starts nothing, a sequence that breaks off, or one that the end of the text cuts
short.  `encode` goes the other way for texts without halves of surrogate pairs.
-/

namespace ValidatorGen.Text.Utf8

/-- What is wrong with bytes that are no UTF-8. -/
inductive Flaw
  | start
  | continuation
  | ending
  deriving DecidableEq, Repr

def Flaw.text : Flaw → Text
  | start => "invalid start byte"
  | continuation => "invalid continuation byte"
  | ending => "unexpected end of data"

/-- The bad bytes: from which position, how many, the first of them, and what is wrong. -/
structure Fault where
  position : Nat
  length : Nat
  byte : UInt8
  flaw : Flaw
  deriving DecidableEq, Repr

/-- The bounds of the second byte and the number of bytes behind the first one. -/
def lead? (b : UInt8) : Option (Nat × Nat × Nat) :=
  let n := b.toNat
  if 0xC2 ≤ n ∧ n ≤ 0xDF then some (0x80, 0xBF, 1)
  else if n = 0xE0 then some (0xA0, 0xBF, 2)
  else if n = 0xED then some (0x80, 0x9F, 2)
  else if 0xE1 ≤ n ∧ n ≤ 0xEF then some (0x80, 0xBF, 2)
  else if n = 0xF0 then some (0x90, 0xBF, 3)
  else if n = 0xF4 then some (0x80, 0x8F, 3)
  else if 0xF1 ≤ n ∧ n ≤ 0xF3 then some (0x80, 0xBF, 3)
  else none

/-- The payload of a first byte with `more` bytes behind it. -/
def payload (b : UInt8) (more : Nat) : Nat := b.toNat % Nat.pow 2 (6 - more)

/-- Reads the `more` bytes behind a first one; a failure says how many of them were good. -/
def follow (low high : Nat) (more value : Nat) (good : Nat) :
    List UInt8 → Except (Nat × Flaw) (Nat × List UInt8)
  | bs =>
    match more, bs with
    | 0, bs => .ok (value, bs)
    | _ + 1, [] => .error (good, .ending)
    | k + 1, b :: r =>
      if low ≤ b.toNat ∧ b.toNat ≤ high then
        follow 0x80 0xBF k (value * 64 + b.toNat % 64) (good + 1) r
      else .error (good, .continuation)

theorem length_follow {low high more value good n : Nat} {bs r : List UInt8}
    (h : follow low high more value good bs = .ok (n, r)) : r.length ≤ bs.length := by
  induction more generalizing low high value good bs with
  | zero => simp_all [follow]
  | succ k ih =>
    cases bs with
    | nil => simp [follow] at h
    | cons b bs =>
      simp only [follow] at h
      split at h
      · have := ih h
        simp
        omega
      · simp at h

/-- Reads one character at a position. -/
def decodeChar (position : Nat) (b : UInt8) (r : List UInt8) :
    Except Fault (Char × List UInt8) :=
  if b.toNat < 0x80 then .ok (Char.ofNat b.toNat, r)
  else match lead? b with
    | none => .error ⟨position, 1, b, .start⟩
    | some (low, high, more) =>
      match follow low high more (payload b more) 0 r with
      | .ok (n, r') => .ok (Char.ofNat n, r')
      | .error (good, flaw) => .error ⟨position, good + 1, b, flaw⟩

theorem length_decodeChar {position : Nat} {b : UInt8} {r r' : List UInt8} {c : Char}
    (h : decodeChar position b r = .ok (c, r')) : r'.length ≤ r.length := by
  unfold decodeChar at h
  split at h
  · cases h
    exact Nat.le_refl _
  · split at h
    · simp at h
    · split at h
      · rename_i hf
        cases h
        exact length_follow hf
      · simp at h

/-- Reads bytes that stand at a position. -/
def decodeFrom (position : Nat) (bs : List UInt8) : Except Fault Text :=
  match bs with
  | [] => .ok []
  | b :: r =>
    match h : decodeChar position b r with
    | .error f => .error f
    | .ok (c, r') =>
      have := length_decodeChar h
      (decodeFrom (position + c.utf8Size) r').map (.char c :: ·)
termination_by bs.length

/-- Reads bytes as UTF-8. -/
def decode (bs : List UInt8) : Except Fault Text := decodeFrom 0 bs

/-! ### Writing -/

/-- The bytes of the characters of a text; a half of a surrogate pair has none. -/
def encode (s : Text) : List UInt8 :=
  s.flatMap fun
    | .char c => String.utf8EncodeChar c
    | .half _ => []

/-- Halves of surrogate pairs in a text: from which position, how many, and the first of them. -/
structure Halves where
  position : Nat
  length : Nat
  first : Nat
  deriving DecidableEq, Repr

/-- The first halves of surrogate pairs in a text that fail a test, with those behind them; they
keep the text from having bytes. -/
def halvesFrom? (good : CodePoint → Bool) (position : Nat) : Text → Option Halves
  | [] => none
  | c :: r =>
    if c.isHalf && !good c then
      some ⟨position, 1 + (r.takeWhile (·.isHalf)).length, c.toNat⟩
    else halvesFrom? good (position + 1) r

/-- The first halves of surrogate pairs in a text. -/
def halves? (s : Text) : Option Halves := halvesFrom? (fun _ => false) 0 s

end ValidatorGen.Text.Utf8
