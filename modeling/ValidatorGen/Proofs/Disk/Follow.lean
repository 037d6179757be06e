import ValidatorGen.Proofs.Disk.Tree
import ValidatorGen.Proofs.Path

/-!
# Where paths lead

A straight path, which starts at the root and never turns back, leads to the place that its parts
spell, if the disk can be asked about it and all but the last part are folders.

* `Fits` — the disk can be asked about a path;
* `Sayable` — it can, whatever it says to the names in it;
* `Fits.child_of`, `Fits.of_child` — which other paths then fit too;
* `follow_child`, `follow_root` — the place that a path leads to;
* `exists_of_follow_error` — what is in the way of a path that leads nowhere.
-/

namespace ValidatorGen

namespace Path

/-- The place that a straight path spells. -/
def place (p : Path) : List Text := p.parts.map FileName.stored

theorem place_child (p : Path) (a : Text) : (p.child a).place = p.place ++ [FileName.stored a] := by
  rw [place, child, List.map_append]
  rfl

end Path

namespace FileName

theorem size_append (s t : Text) : size (s ++ t) = size s + size t := by
  rw [size, bytes, List.flatMap_append, List.length_append]
  rfl

theorem halvesFrom?_eq_none_iff {good : CodePoint → Bool} {n : Nat} {s : Text} :
    Text.Utf8.halvesFrom? good n s = none ↔ ∀ c ∈ s, c.isHalf = true → good c = true := by
  induction s generalizing n with
  | nil => simp [Text.Utf8.halvesFrom?]
  | cons c s ih =>
    rw [Text.Utf8.halvesFrom?, List.forall_mem_cons, ← ih (n := n + 1)]
    split_ifs with h
    · simp_all
    · simp_all

end FileName

namespace Disk

/-! ## Paths that fit -/

/-- The disk can be asked about the path. -/
structure Fits (p : Path) : Prop where
  askable : unaskable? p = none
  short : FileName.size p.text < maxPath
  names : ∀ a ∈ p.parts, FileName.size a ≤ maxName

theorem unaskable?_eq_none_iff {p : Path} :
    unaskable? p = none ↔
      (∀ c ∈ p.text, c.isHalf = true → (FileName.byte? c).isSome = true) ∧
        ∀ s ∈ p.parts, CodePoint.char '\x00' ∉ s := by
  unfold unaskable? hasNull FileName.unstorable?
  cases h : Text.Utf8.halvesFrom? (fun c => (FileName.byte? c).isSome) 0 p.text with
  | some x =>
    refine iff_of_false (by simp) fun hn => ?_
    rw [FileName.halvesFrom?_eq_none_iff.2 hn.1] at h
    cases h
  | none =>
    have hhalf := FileName.halvesFrom?_eq_none_iff.1 h
    simpa using fun _ => hhalf

variable {p : Path} {a b : Text}

/-- The disk can be asked about the path, whatever it says to the names in it. -/
structure Sayable (p : Path) : Prop where
  askable : unaskable? p = none
  short : FileName.size p.text < maxPath

/-- The disk can be asked about the folder that something is in. -/
theorem Sayable.of_child (hp : p.slashes = 1) (h : Sayable (p.child a)) : Sayable p := by
  obtain ⟨t, ht⟩ := Path.exists_text_child hp
  obtain ⟨hhalf, hnull⟩ := unaskable?_eq_none_iff.1 h.askable
  have hshort := h.short
  rw [ht, FileName.size_append, FileName.size_append] at hshort
  refine ⟨unaskable?_eq_none_iff.2 ⟨fun c hc => hhalf c ?_, fun s hs => hnull s ?_⟩, by omega⟩
  · rw [ht]
    exact List.mem_append_left _ (List.mem_append_left _ hc)
  · exact List.mem_append_left _ hs

theorem Fits.sayable (h : Fits p) : Sayable p := ⟨h.askable, h.short⟩

/-- A folder fits if something in it does. -/
theorem Fits.of_child (hp : p.slashes = 1) (h : Fits (p.child a)) : Fits p := by
  have hsayable : Sayable p := h.sayable.of_child hp
  exact ⟨hsayable.askable, hsayable.short, fun s hs => h.names s (List.mem_append_left _ hs)⟩

/-- In a folder a name fits if a longer one with all its characters does. -/
theorem Fits.child_of (hp : p.slashes = 1) (h : Fits (p.child b)) (hsub : a ⊆ b)
    (hsize : FileName.size a ≤ FileName.size b) : Fits (p.child a) := by
  obtain ⟨t, ht⟩ := Path.exists_text_child hp
  obtain ⟨hhalf, hnull⟩ := unaskable?_eq_none_iff.1 h.askable
  have hb : b ∈ (p.child b).parts := List.mem_append_right _ (List.mem_singleton_self b)
  refine ⟨unaskable?_eq_none_iff.2 ⟨fun c hc => hhalf c ?_, fun s hs => ?_⟩, ?_, fun s hs => ?_⟩
  · rw [ht] at hc ⊢
    rcases List.mem_append.1 hc with hc | hc
    · exact List.mem_append_left _ hc
    · exact List.mem_append_right _ (hsub hc)
  · rcases List.mem_append.1 hs with hs | hs
    · exact hnull s (List.mem_append_left _ hs)
    · rw [List.mem_singleton.1 hs]
      exact fun hm => hnull b hb (hsub hm)
  · have hshort := h.short
    rw [ht, FileName.size_append] at hshort ⊢
    omega
  · rcases List.mem_append.1 hs with hs | hs
    · exact h.names s (List.mem_append_left _ hs)
    · rw [List.mem_singleton.1 hs]
      exact Nat.le_trans hsize (h.names b hb)

/-! ## Following -/

variable {d : Disk}

/-- A way is followed to its end if there is a folder in front of its last name. -/
theorem followFrom_of_folder {place parts : List Text} (hup : Path.up ∉ parts)
    (hsize : ∀ a ∈ parts, FileName.size a ≤ maxName)
    (h : parts = [] ∨ ∃ es, d.root.get? (place ++ parts.dropLast.map FileName.stored)
      = some (.folder es)) :
    d.followFrom place parts = .ok (place ++ parts.map FileName.stored) := by
  induction parts generalizing place with
  | nil => rw [followFrom, List.map_nil, List.append_nil]
  | cons a parts ih =>
    obtain ⟨es, hes⟩ := h.resolve_left (List.cons_ne_nil a parts)
    rw [List.mem_cons, not_or] at hup
    rw [List.forall_mem_cons] at hsize
    have hfolder : ∃ es, d.root.get? place = some (.folder es) := by
      cases parts with
      | nil => exact ⟨es, by simpa using hes⟩
      | cons b parts =>
        rw [List.dropLast_cons_cons, List.map_cons, Node.get?_append] at hes
        obtain ⟨n, hn, hes⟩ := Option.bind_eq_some_iff.1 hes
        obtain ⟨es', -, rfl, -⟩ := Node.exists_folder_of_get?_cons hes
        exact ⟨es', hn⟩
    have hrest : parts = [] ∨ ∃ es, d.root.get?
        (place ++ [FileName.stored a] ++ parts.dropLast.map FileName.stored)
          = some (.folder es) := by
      cases parts with
      | nil => exact .inl rfl
      | cons b parts =>
        refine .inr ⟨es, ?_⟩
        rw [List.append_assoc]
        exact hes
    obtain ⟨es', hes'⟩ := hfolder
    unfold followFrom
    rw [hes']
    dsimp only
    rw [if_neg (Ne.symm hup.1), if_neg (Nat.not_lt.2 hsize.1), ih hup.2 hsize.2 hrest,
      List.append_assoc, List.map_cons]
    rfl

/-- What is in the way: nothing at a place in front of the last name, or a file. -/
theorem exists_of_followFrom_error {place parts : List Text} {t : Trouble} (hup : Path.up ∉ parts)
    (hsize : ∀ a ∈ parts, FileName.size a ≤ maxName) (h : d.followFrom place parts = .error t) :
    ∃ s, s <+: parts.dropLast.map FileName.stored ∧
      (t = .noEntry ∧ d.root.get? (place ++ s) = none ∨
        t = .notFolder ∧ ∃ c, d.root.get? (place ++ s) = some (.file c)) := by
  induction parts generalizing place with
  | nil => cases h
  | cons a parts ih =>
    rw [List.mem_cons, not_or] at hup
    rw [List.forall_mem_cons] at hsize
    have hnil : ∀ l : List Text, [] <+: l := fun l => List.nil_prefix
    unfold followFrom at h
    cases hn : d.root.get? place with
    | none =>
      rw [hn] at h
      cases h
      exact ⟨[], hnil _, .inl ⟨rfl, by rw [List.append_nil, hn]⟩⟩
    | some n =>
      rw [hn] at h
      cases n with
      | file c =>
        cases h
        exact ⟨[], hnil _, .inr ⟨rfl, c, by rw [List.append_nil, hn]⟩⟩
      | folder es =>
        dsimp only at h
        rw [if_neg (Ne.symm hup.1), if_neg (Nat.not_lt.2 hsize.1)] at h
        obtain ⟨s, hs, hcase⟩ := ih hup.2 hsize.2 h
        cases parts with
        | nil => cases h
        | cons b parts =>
          refine ⟨FileName.stored a :: s, ?_, ?_⟩
          · rw [List.dropLast_cons_cons, List.map_cons]
            exact (List.prefix_cons_inj _).2 hs
          · rwa [← List.append_cons] at hcase

/-- A way that is followed to its end has a folder in front of its last name. -/
theorem exists_folder_of_followFrom {place parts place' : List Text} {a : Text}
    (hup : Path.up ∉ parts) (h : d.followFrom place (parts ++ [a]) = .ok place') :
    ∃ es, d.root.get? (place ++ parts.map FileName.stored) = some (.folder es) := by
  induction parts generalizing place with
  | nil =>
    rw [List.nil_append] at h
    unfold followFrom at h
    rw [List.map_nil, List.append_nil]
    split at h
    · cases h
    · cases h
    · next es hes => exact ⟨es, hes⟩
  | cons b parts ih =>
    rw [List.mem_cons, not_or] at hup
    rw [List.cons_append] at h
    unfold followFrom at h
    split at h
    · cases h
    · cases h
    · rw [if_neg (Ne.symm hup.1)] at h
      split_ifs at h
      obtain ⟨es, hes⟩ := ih hup.2 h
      rw [List.append_assoc] at hes
      exact ⟨es, hes⟩

/-- A way that is followed to its end has no name that is too long. -/
theorem size_le_of_followFrom {place parts place' : List Text} (hup : Path.up ∉ parts)
    (h : d.followFrom place parts = .ok place') : ∀ a ∈ parts, FileName.size a ≤ maxName := by
  induction parts generalizing place with
  | nil => exact fun a ha => absurd ha List.not_mem_nil
  | cons a parts ih =>
    rw [List.mem_cons, not_or] at hup
    unfold followFrom at h
    split at h
    · cases h
    · cases h
    · rw [if_neg (Ne.symm hup.1)] at h
      split_ifs at h with hsize
      rw [List.forall_mem_cons]
      exact ⟨Nat.not_lt.1 hsize, ih hup.2 h⟩

theorem follow_of_sayable (hp : p.IsStraight) (hs : Sayable p) :
    d.follow p = match d.followFrom [] p.parts with
      | .ok place => .ok place
      | .error t => .error (.of t p.text) := by
  have habs : p.isAbsolute = true := by simp [Path.isAbsolute, hp.slashes]
  unfold follow
  rw [hs.askable]
  refine (if_neg (Nat.not_le.2 hs.short)).trans ?_
  exact congrArg (fun start => match d.followFrom start p.parts with
    | .ok place => Except.ok place
    | .error t => .error (DiskFault.of t p.text)) (if_pos habs)

theorem follow_of_fits (hp : p.IsStraight) (hf : Fits p) :
    d.follow p = match d.followFrom [] p.parts with
      | .ok place => .ok place
      | .error t => .error (.of t p.text) :=
  follow_of_sayable hp hf.sayable

/-- A straight path that leads somewhere fits. -/
theorem fits_of_follow (hp : p.IsStraight) {place : List Text} (h : d.follow p = .ok place) :
    Fits p := by
  have habs : p.isAbsolute = true := by simp [Path.isAbsolute, hp.slashes]
  unfold follow at h
  cases ha : unaskable? p with
  | some f =>
    rw [ha] at h
    cases h
  | none =>
    rw [ha] at h
    dsimp only at h
    split_ifs at h with hshort
    cases hr : d.followFrom [] p.parts with
    | error t =>
      rw [hr] at h
      cases h
    | ok q => exact ⟨ha, Nat.not_le.1 hshort, size_le_of_followFrom hp.up hr⟩

theorem follow_root (hp : p.IsStraight) (hf : Fits p) (h : p.parts = []) :
    d.follow p = .ok p.place := by
  rw [follow_of_fits hp hf, followFrom_of_folder hp.up hf.names (.inl h)]
  rfl

/-- What a folder holds under a name is where it should be. -/
theorem follow_child {es : List (Text × Node)} (hp : (p.child a).IsStraight)
    (hf : Fits (p.child a)) (h : d.root.get? p.place = some (.folder es)) :
    d.follow (p.child a) = .ok (p.place ++ [FileName.stored a]) := by
  have hfolder : ∃ es, d.root.get? ([] ++ (p.child a).parts.dropLast.map FileName.stored)
      = some (.folder es) := by
    refine ⟨es, ?_⟩
    rw [List.nil_append, Path.child, List.dropLast_concat]
    exact h
  rw [follow_of_fits hp hf, followFrom_of_folder hp.up hf.names (.inr hfolder), List.nil_append]
  exact congrArg Except.ok (Path.place_child p a)

/-- Where something is, a path that spells the place leads there. -/
theorem follow_of_get? (hp : p.IsStraight) (hf : Fits p) {n : Node}
    (h : d.root.get? p.place = some n) : d.follow p = .ok p.place := by
  have hfolder : p.parts = [] ∨ ∃ es,
      d.root.get? ([] ++ p.parts.dropLast.map FileName.stored) = some (.folder es) := by
    rcases List.eq_nil_or_concat p.parts with hnil | ⟨parts, a, hparts⟩
    · exact .inl hnil
    · refine .inr ?_
      rw [Path.place, hparts, List.concat_eq_append, List.map_append, Node.get?_append] at h
      obtain ⟨m, hm, hlast⟩ := Option.bind_eq_some_iff.1 h
      obtain ⟨es, -, rfl, -⟩ := Node.exists_folder_of_get?_cons hlast
      exact ⟨es, by rw [hparts, List.concat_eq_append, List.dropLast_concat]; exact hm⟩
  rw [follow_of_fits hp hf, followFrom_of_folder hp.up hf.names hfolder]
  rfl

theorem exists_folder_of_follow (hp : (p.child a).IsStraight) (hf : Fits (p.child a))
    {place : List Text} (h : d.follow (p.child a) = .ok place) :
    ∃ es, d.root.get? p.place = some (.folder es) := by
  rw [follow_of_fits hp hf] at h
  cases hr : d.followFrom [] (p.child a).parts with
  | error t =>
    rw [hr] at h
    cases h
  | ok q => exact exists_folder_of_followFrom (fun hm => hp.up (List.mem_append_left _ hm)) hr

/-- What is in the way to something in a folder: no folder, or a file. -/
theorem exists_of_follow_error (hp : (p.child a).IsStraight) (hf : Fits (p.child a))
    {f : DiskFault} (h : d.follow (p.child a) = .error f) :
    (∃ s t, f = .of .noEntry t ∧ s <+: p.place ∧ d.root.get? s = none) ∨
      ∃ s c t, f = .of .notFolder t ∧ s <+: p.place ∧ d.root.get? s = some (.file c) := by
  rw [follow_of_fits hp hf] at h
  cases hr : d.followFrom [] (p.child a).parts with
  | ok place =>
    rw [hr] at h
    cases h
  | error t =>
    rw [hr] at h
    cases h
    obtain ⟨s, hs, hcase⟩ := exists_of_followFrom_error hp.up hf.names hr
    rw [Path.child, List.dropLast_concat] at hs
    rcases hcase with ⟨rfl, hn⟩ | ⟨rfl, c, hc⟩
    · exact .inl ⟨s, _, rfl, hs, hn⟩
    · exact .inr ⟨s, c, _, rfl, hs, hc⟩

end Disk

end ValidatorGen
