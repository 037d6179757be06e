import ValidatorGen.Proofs.Disk.Again

/-!
# How a write to a folder ends

How a write to a file of a folder ends is a matter of the names and of the text, and of whether there
is a folder in the place of the file.  Nothing else on the disk makes a difference.

* `refusal?`, `follow_child_eq` — what the disk says to the path of a file in a folder;
* `outcome`, `writeText_eq` — how a write ends, and what becomes of the folder;
* `IsWord`, `outcome_alike` — the word that sets temporary files apart only appears in faults.
-/

namespace ValidatorGen.Disk

variable {d : Disk} {p : Path} {word word' name text text' : Text} {es : List (Text × Node)}
  {atomic there : Bool}

/-! ## One file -/

/-- What the disk says to a path in a folder. -/
def refusal? (p : Path) : Option DiskFault :=
  match unaskable? p with
  | some f => some f
  | none =>
    if maxPath ≤ FileName.size p.text ∨ maxName < FileName.size p.name then
      some (.of .nameTooLong p.text)
    else none

theorem fits_of_refusal?_eq_none (hf : Fits p) (h : refusal? (p.child name) = none) :
    Fits (p.child name) := by
  unfold refusal? at h
  split at h
  · cases h
  · next hask =>
    split_ifs at h with hlong
    rw [Path.name_child, not_or, Nat.not_le, Nat.not_lt] at hlong
    refine ⟨hask, hlong.1, fun a ha => ?_⟩
    rcases List.mem_append.1 ha with ha | ha
    · exact hf.names a ha
    · rw [List.mem_singleton.1 ha]
      exact hlong.2

theorem follow_child_eq (hp : (p.child name).IsStraight) (hf : Fits p)
    (hq : d.root.get? p.place = some (.folder es)) :
    d.follow (p.child name) = match refusal? (p.child name) with
      | some f => .error f
      | none => .ok (p.place ++ [FileName.stored name]) := by
  cases hr : refusal? (p.child name) with
  | none => exact follow_child hp (fits_of_refusal?_eq_none hf hr) hq
  | some f =>
    unfold refusal? at hr
    cases hask : unaskable? (p.child name) with
    | some g =>
      rw [hask] at hr
      cases hr
      unfold follow
      rw [hask]
    | none =>
      rw [hask] at hr
      dsimp only at hr
      split_ifs at hr with hlong
      cases hr
      by_cases hshort : maxPath ≤ FileName.size (p.child name).text
      · unfold follow
        rw [hask]
        exact if_pos hshort
      · have hroot : p.slashes = 1 := hp.slashes
        have hname := hlong.resolve_left hshort
        rw [Path.name_child] at hname
        have hsayable : Sayable (p.child name) := ⟨hask, Nat.not_le.1 hshort⟩
        have hislong : IsLong (p.child name) p name [] :=
          ⟨by rw [Path.child, hroot], hroot, hp, hsayable, hf.names, hname⟩
        exact hislong.follow_of_folder hq

/-- The path that a write asks about: an atomic one asks about the temporary file. -/
def asked (word : Text) (atomic : Bool) (p : Path) (name : Text) : Path :=
  if atomic then temporary word p name else p.child name

/-- What is said where a folder is in the place of the file. -/
def barrier (word : Text) (atomic : Bool) (p : Path) (name : Text) : DiskFault :=
  if atomic then .trouble .isFolder (temporary word p name).text (some (p.child name).text)
  else .of .isFolder (p.child name).text

/-- How a write to a file of a folder ends, where there may be a folder in its place. -/
def outcome (word : Text) (atomic : Bool) (p : Path) (name text : Text) (there : Bool) :
    Except DiskFault Nat :=
  match Text.Utf8.halves? text with
  | some h => .error (.unencodable h)
  | none =>
    match refusal? (asked word atomic p name) with
    | some f => .error f
    | none =>
      if there then .error (barrier word atomic p name) else .ok (Text.Utf8.encode text).length

theorem refusal?_eq_none (h : Fits (p.child name)) : refusal? (p.child name) = none := by
  have hname : FileName.size name ≤ maxName :=
    h.names name (List.mem_append_right _ (List.mem_singleton_self _))
  unfold refusal?
  rw [h.askable, Path.name_child]
  refine if_neg ?_
  rw [not_or, Nat.not_le, Nat.not_lt]
  exact ⟨h.short, hname⟩

/-- With nothing about the names and the text in its way, only a folder is in the way of a write. -/
theorem outcome_of_canWrite (h : CanWrite word p name text) (there : Bool) :
    outcome word true p name text there
      = if there then .error (barrier word true p name)
        else .ok (Text.Utf8.encode text).length := by
  have hrefusal : refusal? (asked word true p name) = none := refusal?_eq_none h.fits
  unfold outcome
  rw [h.whole, hrefusal]

theorem outcome_ne_ok_of_there {n : Nat} : outcome word atomic p name text true ≠ .ok n := by
  unfold outcome
  intro h
  split at h
  · cases h
  · split at h
    · cases h
    · rw [if_pos rfl] at h
      cases h

section

variable (hp : p.IsStraight) (hname : name ≠ Path.up) (hf : Fits p)
  (hq : d.root.get? p.place = some (.folder es))
include hp hname hf hq

theorem replace_eq (word : Text) (content : List UInt8) :
    d.replace word (p.child name) content
      = match refusal? (temporary word p name) with
        | some f => (d, .error f)
        | none =>
          if HoldsFolder es (FileName.stored name) then (d, .error (barrier word true p name))
          else (d.withEntries p.place (Ordered.put (FileName.stored name) (.file content) es),
            .ok ()) := by
  cases hr : refusal? (temporary word p name) with
  | none => exact replace_entry hp hname (fits_of_refusal?_eq_none hf hr) hq content
  | some f =>
    have htemporary : ((p.child name).parent.absolutePath d.cwd).child
        (temporaryName word (p.child name).name) = temporary word p name := by
      rw [Path.parent_child, Path.name_child, hp.absolutePath]
      rfl
    have hfollow := follow_child_eq (hp.child (temporaryName_ne_up word name)) hf hq
    rw [← temporary, hr] at hfollow
    unfold replace
    rw [htemporary]
    simp only [hfollow]

theorem overwrite_eq (word : Text) (content : List UInt8) :
    d.overwrite (p.child name) content
      = match refusal? (p.child name) with
        | some f => .error f
        | none =>
          if HoldsFolder es (FileName.stored name) then .error (barrier word false p name)
          else .ok (d.withEntries p.place
            (Ordered.put (FileName.stored name) (.file content) es)) := by
  unfold overwrite HoldsFolder
  rw [follow_child_eq (hp.child hname) hf hq]
  cases refusal? (p.child name) with
  | some f => rfl
  | none =>
    dsimp only
    rw [Node.get?_entry hq, Node.set_entry hq]
    rcases Ordered.get? (FileName.stored name) es with _ | ⟨c⟩ | ⟨es'⟩ <;> rfl

/-- **A write to a file of a folder** puts the text there, or leaves everything as it is. -/
theorem writeText_eq (word : Text) (atomic : Bool) (text : Text) :
    d.writeText word atomic (p.child name) text
      = match outcome word atomic p name text (HoldsFolder es (FileName.stored name)) with
        | .error f => (d, .error f)
        | .ok n => (d.withEntries p.place
            (Ordered.put (FileName.stored name) (.file (Text.Utf8.encode text)) es), .ok n) := by
  unfold writeText outcome
  rw [Path.parent_child, ensureFolder_of_folder hp hf hq]
  cases Text.Utf8.halves? text with
  | some h => rfl
  | none =>
    cases atomic with
    | true =>
      simp only [if_true, replace_eq hp hname hf hq word, asked]
      cases refusal? (temporary word p name) with
      | some f => rfl
      | none => split_ifs <;> rfl
    | false =>
      simp only [Bool.false_eq_true, if_false, overwrite_eq hp hname hf hq word, asked]
      cases refusal? (p.child name) with
      | some f => rfl
      | none => split_ifs <;> rfl

end

/-! ## The word of a temporary file -/

/-- Eight characters of ASCII that set a temporary file apart. -/
structure IsWord (w : Text) : Prop where
  length : w.length = 8
  ascii : ∀ c ∈ w, 0 < c.toNat ∧ c.toNat < 128

theorem size_of_ascii {w : Text} (h : ∀ c ∈ w, 0 < c.toNat ∧ c.toNat < 128) :
    FileName.size w = w.length := by
  induction w with
  | nil => rfl
  | cons c w ih =>
    rw [List.forall_mem_cons] at h
    have hchar : FileName.size [c] = 1 := by
      cases c with
      | half n =>
        have hsmall := h.1.2
        rw [CodePoint.toNat_half, CodePoint.firstHalf] at hsmall
        omega
      | char c =>
        have hsmall : c.val ≤ 127 := Nat.le_of_lt_succ h.1.2
        have hlength := String.length_utf8EncodeChar c
        rw [Char.utf8Size_eq_one_iff.2 hsmall] at hlength
        rw [FileName.size, FileName.bytes, List.flatMap_singleton]
        exact hlength
    have happend : FileName.size (c :: w) = FileName.size [c] + FileName.size w :=
      FileName.size_append [c] w
    rw [happend, hchar, ih h.2, List.length_cons, Nat.add_comm]

theorem IsWord.size (h : IsWord word) : FileName.size word = 8 :=
  (size_of_ascii h.ascii).trans h.length

/-- Neither a null character nor half of a surrogate pair is in a word. -/
theorem IsWord.plain (h : IsWord word) : ∀ c ∈ word, c.isHalf = false ∧ c ≠ CodePoint.char '\x00' := by
  intro c hc
  obtain ⟨hpos, hsmall⟩ := h.ascii c hc
  constructor
  · cases c with
    | char c => rfl
    | half n =>
      rw [CodePoint.toNat_half, CodePoint.firstHalf] at hsmall
      omega
  · rintro rfl
    exact absurd hpos (by decide)

theorem size_temporaryName (h : IsWord word) (name : Text) :
    FileName.size (temporaryName word name) = FileName.size name + 14 := by
  have hdot : FileName.size "." = 1 := by decide +kernel
  have htmp : FileName.size ".tmp" = 4 := by decide +kernel
  unfold temporaryName
  simp only [FileName.size_append, h.size, hdot, htmp]
  omega

/-- The characters of a temporary name that are not those of the word. -/
theorem mem_temporaryName {c : CodePoint} :
    c ∈ temporaryName word name ↔ c ∈ word ∨ c ∈ temporaryName [] name := by
  unfold temporaryName
  simp only [List.mem_append]
  tauto

/-- Which word it is makes no difference for whether the disk can be asked. -/
theorem unaskable?_temporary (hroot : p.slashes = 1) (h : IsWord word) :
    unaskable? (temporary word p name) = none ↔ unaskable? (temporary [] p name) = none := by
  obtain ⟨t, ht⟩ := Path.exists_text_child hroot
  unfold temporary
  rw [unaskable?_eq_none_iff, unaskable?_eq_none_iff, ht, ht]
  apply and_congr
  · constructor
    · intro hall c hc
      refine hall c ?_
      rw [List.mem_append, mem_temporaryName]
      exact (List.mem_append.1 hc).imp_right .inr
    · intro hall c hc hhalf
      rw [List.mem_append, mem_temporaryName] at hc
      rcases hc with hc | hc | hc
      · exact hall c (List.mem_append_left _ hc) hhalf
      · rw [(h.plain c hc).1] at hhalf
        cases hhalf
      · exact hall c (List.mem_append_right _ hc) hhalf
  · rw [Path.child, Path.child, List.forall_mem_append, List.forall_mem_append,
      List.forall_mem_singleton, List.forall_mem_singleton, mem_temporaryName]
    have hnull : CodePoint.char '\x00' ∉ word := fun hm => (h.plain _ hm).2 rfl
    rw [or_iff_right hnull]

/-- Nor does it for what the disk says then. -/
theorem refusal?_asked (hroot : p.slashes = 1) (h : IsWord word) (h' : IsWord word')
    (atomic : Bool) (name : Text) :
    (refusal? (asked word' atomic p name)).map DiskFault.isTrouble
      = (refusal? (asked word atomic p name)).map DiskFault.isTrouble := by
  cases atomic with
  | false => rfl
  | true =>
    obtain ⟨t, ht⟩ := Path.exists_text_child hroot
    have hnames : FileName.size (temporaryName word' name)
        = FileName.size (temporaryName word name) := by
      rw [size_temporaryName h', size_temporaryName h]
    have htexts : FileName.size (temporary word' p name).text
        = FileName.size (temporary word p name).text := by
      unfold temporary
      rw [ht, ht, FileName.size_append, FileName.size_append _ (temporaryName word name), hnames]
    have hask : unaskable? (temporary word' p name) = none ↔ unaskable? (temporary word p name) = none :=
      (unaskable?_temporary hroot h').trans (unaskable?_temporary hroot h).symm
    have hname : ∀ w, (temporary w p name).name = temporaryName w name := fun w =>
      Path.name_child p _
    simp only [asked, if_true, refusal?, hname, htexts, hnames]
    cases hw : unaskable? (temporary word p name) with
    | none =>
      rw [hask.2 hw]
      dsimp only
      split_ifs <;> rfl
    | some f =>
      obtain ⟨f', hw'⟩ := Option.ne_none_iff_exists'.1 fun hnone => by
        rw [hask.1 hnone] at hw
        cases hw
      rw [hw']
      simp only [Option.map_some, isTrouble_of_unaskable? hw, isTrouble_of_unaskable? hw']

theorem halves?_eq_none_iff : Text.Utf8.halves? text = none ↔ text.hasHalf = false := by
  unfold Text.Utf8.halves? Text.hasHalf
  rw [FileName.halvesFrom?_eq_none_iff, List.any_eq_false]
  simp

/-- Two writes both end well or are both refused, and if they are the same in the same way. -/
inductive Alike (same : Prop) : Except DiskFault Nat → Except DiskFault Nat → Prop
  | ok (n n' : Nat) : Alike same (.ok n) (.ok n')
  | error {f f' : DiskFault} (trouble : f'.isTrouble = f.isTrouble) (eq : same → f' = f) :
      Alike same (.error f) (.error f')

theorem Alike.refl {same : Prop} (x : Except DiskFault Nat) : Alike same x x := by
  cases x with
  | ok n => exact .ok n n
  | error f => exact .error rfl fun _ => rfl

/-- **The word that sets a temporary file apart** makes no difference for how a write ends. -/
theorem outcome_alike (hroot : p.slashes = 1) (h : IsWord word) (h' : IsWord word')
    (htext : text'.hasHalf = text.hasHalf) (atomic : Bool) (name : Text) (there : Bool) :
    Alike (word' = word ∧ text' = text) (outcome word atomic p name text there)
      (outcome word' atomic p name text' there) := by
  by_cases hsame : word' = word ∧ text' = text
  · obtain ⟨rfl, rfl⟩ := hsame
    exact .refl _
  · have hrefusal := refusal?_asked hroot h h' atomic name
    unfold outcome
    cases hw : Text.Utf8.halves? text with
    | some x =>
      obtain ⟨x', hw'⟩ := Option.ne_none_iff_exists'.1 fun hnone => by
        rw [halves?_eq_none_iff, htext, ← halves?_eq_none_iff, hw] at hnone
        cases hnone
      rw [hw']
      exact .error rfl fun hs => absurd hs hsame
    | none =>
      have hw' : Text.Utf8.halves? text' = none := by
        rw [halves?_eq_none_iff, htext, ← halves?_eq_none_iff, hw]
      rw [hw']
      dsimp only
      cases hr : refusal? (asked word atomic p name) with
      | some f =>
        rw [hr, Option.map_some] at hrefusal
        obtain ⟨f', hr', htrouble⟩ := Option.map_eq_some_iff.1 hrefusal
        rw [hr']
        exact .error htrouble fun hs => absurd hs hsame
      | none =>
        rw [hr, Option.map_none, Option.map_eq_none_iff] at hrefusal
        rw [hrefusal]
        cases there with
        | false => exact .ok _ _
        | true =>
          refine .error ?_ fun hs => absurd hs hsame
          cases atomic <;> rfl

end ValidatorGen.Disk
