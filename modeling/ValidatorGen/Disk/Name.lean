import ValidatorGen.Text.Utf8

/-!
# Names on a disk

A disk keeps a name as bytes.  Bytes that are no UTF-8 are read as the halves U+DC80 to U+DCFF of
surrogate pairs, one for each byte, so these halves are written as the bytes that they stand for;
no other half has a form on the disk.  Two texts that stand for the same bytes name the same file.
-/

namespace ValidatorGen.FileName

/-- Half of a surrogate pair that stands for byte 0. -/
def firstByte : Nat := 0x400

/-- The byte from 128 on that a half stands for. -/
def byte? : CodePoint → Option UInt8
  | .char _ => none
  | .half n =>
    if firstByte + 0x80 ≤ n ∧ n < firstByte + 0x100 then some (.ofNat (n - firstByte)) else none

/-- The half that stands for a byte. -/
def ofByte (b : UInt8) : CodePoint :=
  .half ⟨firstByte + b.toNat, by
    have := b.toNat_lt
    simp only [firstByte]
    omega⟩

/-- The bytes of a name. -/
def bytes (name : Text) : List UInt8 :=
  name.flatMap fun
    | .char c => String.utf8EncodeChar c
    | h => (byte? h).toList

/-- The name that bytes are read as. -/
def ofBytes (bs : List UInt8) : Text :=
  match bs with
  | [] => []
  | b :: r =>
    match h : Text.Utf8.decodeChar 0 b r with
    | .ok (c, r') =>
      have := Text.Utf8.length_decodeChar h
      .char c :: ofBytes r'
    | .error _ => ofByte b :: ofBytes r
termination_by bs.length

/-- The name under which a disk lists what has been stored under a name. -/
def stored (name : Text) : Text := if name.hasHalf then ofBytes (bytes name) else name

/-- The number of bytes of a name. -/
def size (name : Text) : Nat := (bytes name).length

/-- The first halves of surrogate pairs that keep a text from being written on the disk. -/
def unstorable? (s : Text) : Option Text.Utf8.Halves :=
  Text.Utf8.halvesFrom? (fun c => (byte? c).isSome) 0 s

theorem stored_of_not_hasHalf {name : Text} (h : name.hasHalf = false) : stored name = name := by
  simp [stored, h]

end ValidatorGen.FileName
