import Mathlib.Data.List.Induction
import ValidatorGen.Proofs.Disk.Follow

/-!
# Making a folder

To make a folder with all that it is in fails if and only if a file is in the way.  Then the disk
stays as it is; and else there is a folder at the place afterwards, and only places on the way to it
have become something else.
-/

namespace ValidatorGen

namespace Node

/-- There is a file at the place or on the way to it. -/
def Blocks (n : Node) (place : List Text) : Prop :=
  ∃ s c, s <+: place ∧ n.kindAt? s = some (.file c)

variable {n m : Node} {q s : List Text} {es : List (Text × Node)} {a : Text}

theorem kindAt?_eq_file {c : List UInt8} :
    n.kindAt? s = some (.file c) ↔ n.get? s = some (.file c) := by
  unfold kindAt?
  cases n.get? s with
  | none => simp
  | some m => cases m <;> simp [kind]

theorem kindAt?_eq_folder : n.kindAt? s = some .folder ↔ ∃ es, n.get? s = some (.folder es) := by
  unfold kindAt?
  cases n.get? s with
  | none => simp
  | some m => cases m <;> simp [kind]

theorem kindAt?_eq_none : n.kindAt? s = none ↔ n.get? s = none := by simp [kindAt?]

/-- Nothing lies below a place where there is nothing. -/
theorem get?_eq_none_of_isPrefix (hs : s <+: q) (h : n.get? s = none) : n.get? q = none := by
  obtain ⟨t, rfl⟩ := hs
  rw [get?_append, h]
  rfl

/-- Nothing lies below a file. -/
theorem eq_of_prefix_of_file {c : List UInt8} (hs : s <+: q) (h : n.get? s = some (.file c))
    (hq : n.get? q = some m) : s = q := by
  obtain ⟨t, rfl⟩ := hs
  cases t with
  | nil => rw [List.append_nil]
  | cons a t =>
    rw [get?_append, h] at hq
    cases hq

/-- No file is on the way to a folder. -/
theorem not_blocks_of_folder (h : n.get? q = some (.folder es)) : ¬ n.Blocks q := by
  rintro ⟨s, c, hs, hc⟩
  rw [kindAt?_eq_file] at hc
  have heq := eq_of_prefix_of_file hs hc h
  subst heq
  rw [h] at hc
  cases hc

/-- The places on the way to a folder are folders. -/
theorem kindAt?_of_isPrefix (h : n.get? q = some (.folder es)) (hs : s <+: q) :
    n.kindAt? s = some .folder := by
  cases hn : n.get? s with
  | none =>
    rw [get?_eq_none_of_isPrefix hs hn] at h
    cases h
  | some m =>
    cases m with
    | folder es' => exact kindAt?_eq_folder.2 ⟨es', hn⟩
    | file c => exact absurd ⟨s, c, hs, kindAt?_eq_file.2 hn⟩ (not_blocks_of_folder h)

theorem Blocks.child (h : n.Blocks q) (a : Text) : n.Blocks (q ++ [a]) := by
  obtain ⟨s, c, hs, hc⟩ := h
  exact ⟨s, c, hs.trans (List.prefix_append q [a]), hc⟩

theorem Blocks.of_child (h : n.Blocks (q ++ [a])) (hn : n.get? (q ++ [a]) = none) :
    n.Blocks q := by
  obtain ⟨s, c, hs, hc⟩ := h
  rcases List.prefix_concat_iff.1 hs with rfl | hs
  · rw [kindAt?_eq_file, hn] at hc
    cases hc
  · exact ⟨s, c, hs, hc⟩

end Node

namespace Disk

/-- A disk with a folder made at a place, and all that was missing on the way to it. -/
structure Made (d d' : Disk) (place : List Text) : Prop where
  cwd : d'.cwd = d.cwd
  other : ∀ s, ¬ s <+: place → d'.root.kindAt? s = d.root.kindAt? s
  /-- A folder that was not there before is empty. -/
  entries : ∃ es, d'.root.get? place = some (.folder es) ∧ (d' = d ∨ es = [])

variable {d d' : Disk} {p : Path} {a : Text} {q : List Text} {es : List (Text × Node)}

theorem Made.refl (h : d.root.get? q = some (.folder es)) : Made d d q :=
  ⟨rfl, fun _ _ => rfl, es, h, .inl rfl⟩

/-- A folder that is made in one that has been made. -/
theorem Made.child (h : Made d d' q) (hq : d'.root.get? q = some (.folder es))
    (ha : Ordered.get? a es = none) :
    Made d { d' with root := d'.root.set (.folder []) (q ++ [a]) } (q ++ [a]) where
  cwd := h.cwd
  other s hs := by
    have hsq : ¬ s <+: q := fun hp => hs (hp.trans (List.prefix_append q [a]))
    rw [← h.other s hsq]
    by_cases has : q ++ [a] <+: s
    · have hnone : d'.root.get? (q ++ [a]) = none := by rw [Node.get?_entry hq, ha]
      have hafter : (d'.root.set (.folder []) (q ++ [a])).get? (q ++ [a]) = some (.folder []) := by
        rw [Node.set_entry hq, Node.get?_entry (Node.get?_set_self hq _), Ordered.get?_put_self]
      rw [Node.kindAt?_eq_none.2 (Node.get?_eq_none_of_isPrefix has hnone)]
      obtain ⟨t, rfl⟩ := has
      cases t with
      | nil => exact absurd (by simp) hs
      | cons b t =>
        rw [Node.kindAt?_append, hafter]
        rfl
    · exact Node.kindAt?_set_entry hq has _
  entries := by
    refine ⟨[], ?_, .inr rfl⟩
    rw [Node.set_entry hq, Node.get?_entry (Node.get?_set_self hq _), Ordered.get?_put_self]

/-! ## One folder -/

/-- Where a path leads there is a folder or not. -/
theorem isFolder_of_follow {place : List Text} (h : d.follow p = .ok place) :
    d.isFolder p = .ok ((d.root.get? place).any (·.isFolder)) := by
  unfold isFolder find? find
  rw [h]
  dsimp only
  cases d.root.get? place <;> rfl

theorem isFolder_of_follow_error {t : Trouble} {x : Text} (h : d.follow p = .error (.of t x))
    (ht : t ≠ .nameTooLong) : d.isFolder p = .ok false := by
  unfold isFolder find? find
  rw [h]
  cases t <;> first | rfl | exact absurd rfl ht

/-- What is there already, or is a file, is not made. -/
theorem ensureFolder_of_refused {t : Trouble} {x : Text}
    (h : d.makeFolder p = .error (.of t x)) (ht : t ≠ .noEntry) {b : Bool}
    (hb : d.isFolder p = .ok b) :
    d.ensureFolder p = (d, if b then .ok () else .error (.of t x)) := by
  rw [ensureFolder, h]
  have hunless : d.unlessFolder p (.of t x) = if b then .ok () else .error (.of t x) := by
    unfold unlessFolder DiskFault.of
    rw [hb]
    cases b <;> rfl
  cases t with
  | noEntry => exact absurd rfl ht
  | _ => exact congrArg (Prod.mk d) hunless

theorem endsInName_child (p : Path) {a : Text} (ha : a ≠ Path.up) :
    endsInName (p.child a) = true := by
  unfold endsInName Path.child
  rw [List.getLast?_concat]
  simpa using ha

theorem makeFolder_of_get? {place : List Text} (h : d.follow p = .ok place)
    (hs : (d.root.get? place).isSome = true) : d.makeFolder p = .error (.of .taken p.text) := by
  unfold makeFolder
  rw [h]
  simp [hs]

theorem makeFolder_child (ha : a ≠ Path.up) {place : List Text}
    (h : d.follow (p.child a) = .ok place) (hn : d.root.get? place = none) :
    d.makeFolder (p.child a) = .ok { d with root := d.root.set (.folder []) place } := by
  unfold makeFolder
  rw [h]
  simp [hn, endsInName_child p ha]

theorem makeFolder_of_follow_error {f : DiskFault} (h : d.follow p = .error f) :
    d.makeFolder p = .error f := by
  unfold makeFolder
  rw [h]

/-- A folder that is made in one that is there. -/
theorem ensureFolder_of_made {d' : Disk} (h : d.makeFolder p = .ok d') :
    d.ensureFolder p = (d', .ok ()) := by
  rw [ensureFolder, h]

/-- A folder in one that is missing is made behind that. -/
theorem ensureFolder_of_missing {x : Text}
    (h : d.makeFolder (p.child a) = .error (.of .noEntry x)) :
    (∀ d' f, d.ensureFolder p = (d', .error f) → d.ensureFolder (p.child a) = (d', .error f)) ∧
      ∀ d' d'', d.ensureFolder p = (d', .ok ()) → d'.makeFolder (p.child a) = .ok d'' →
        d.ensureFolder (p.child a) = (d'', .ok ()) := by
  have hne : (p.child a).parts ≠ [] := List.append_ne_nil_of_right_ne_nil _ (List.cons_ne_nil a [])
  constructor
  · intro d' f hf
    rw [ensureFolder, h]
    simp only [DiskFault.of, hne, dite_false, Path.parent_child, hf]
  · intro d' d'' hp hm
    rw [ensureFolder, h]
    simp only [DiskFault.of, hne, dite_false, Path.parent_child, hp, hm]

/-! ## All folders on the way -/

/-- How making a folder ends. -/
structure Ensures (d : Disk) (p : Path) : Prop where
  blocked : d.root.Blocks p.place → ∃ f, f.isTrouble = true ∧ d.ensureFolder p = (d, .error f)
  free : ¬ d.root.Blocks p.place → ∃ d', d.ensureFolder p = (d', .ok ()) ∧ Made d d' p.place

/-- Where something is already, it depends on whether that is a folder. -/
theorem ensures_of_get? {n : Node} (h : d.follow p = .ok p.place)
    (hn : d.root.get? p.place = some n) : Ensures d p := by
  have hmake := makeFolder_of_get? h (by rw [hn]; rfl)
  have hens := ensureFolder_of_refused hmake (by decide) (isFolder_of_follow h)
  rw [hn] at hens
  cases n with
  | file c =>
    refine ⟨fun _ => ⟨_, rfl, hens⟩, fun hb => absurd ?_ hb⟩
    exact ⟨p.place, c, List.prefix_rfl, Node.kindAt?_eq_file.2 hn⟩
  | folder es =>
    exact ⟨fun hb => absurd hb (Node.not_blocks_of_folder hn), fun _ => ⟨d, hens, .refl hn⟩⟩

/-- In a folder that is there. -/
theorem ensures_child_of_folder (hp : (p.child a).IsStraight) (ha : a ≠ Path.up)
    (hf : Fits (p.child a)) (hq : d.root.get? p.place = some (.folder es)) :
    Ensures d (p.child a) := by
  have hfollow := follow_child hp hf hq
  rw [← Path.place_child] at hfollow
  cases hn : d.root.get? (p.child a).place with
  | some n => exact ensures_of_get? hfollow hn
  | none =>
    have hmake := makeFolder_child ha hfollow hn
    refine ⟨fun hb => ?_, fun _ => ⟨_, ensureFolder_of_made hmake, ?_⟩⟩
    · rw [Path.place_child] at hb hn
      exact absurd (hb.of_child hn) (Node.not_blocks_of_folder hq)
    · rw [Path.place_child] at hn ⊢
      rw [Node.get?_entry hq] at hn
      exact (Made.refl hq).child hq hn

/-- Behind a file. -/
theorem ensures_child_of_file {c : List UInt8} {s : List Text} {x : Text} (hs : s <+: p.place)
    (hc : d.root.get? s = some (.file c)) (h : d.follow (p.child a) = .error (.of .notFolder x)) :
    Ensures d (p.child a) := by
  have hens := ensureFolder_of_refused (makeFolder_of_follow_error h) (by decide)
    (isFolder_of_follow_error h (by decide))
  have hb : d.root.Blocks p.place := ⟨s, c, hs, Node.kindAt?_eq_file.2 hc⟩
  refine ⟨fun _ => ⟨_, rfl, hens⟩, fun hn => absurd ?_ hn⟩
  rw [Path.place_child]
  exact hb.child _

/-- Behind something that is missing. -/
theorem ensures_child_of_missing (hp : (p.child a).IsStraight) (ha : a ≠ Path.up)
    (hf : Fits (p.child a)) {x : Text} (h : d.follow (p.child a) = .error (.of .noEntry x))
    (hn : d.root.get? p.place = none) (ih : Ensures d p) : Ensures d (p.child a) := by
  obtain ⟨herror, hok⟩ := ensureFolder_of_missing (makeFolder_of_follow_error h)
  have hnone : d.root.get? (p.child a).place = none := by
    rw [Path.place_child]
    exact Node.get?_eq_none_of_isPrefix (List.prefix_append _ _) hn
  constructor
  · intro hb
    rw [Path.place_child] at hb hnone
    obtain ⟨f, hf, hens⟩ := ih.blocked (hb.of_child hnone)
    exact ⟨f, hf, herror d f hens⟩
  · intro hb
    have hb' : ¬ d.root.Blocks p.place := fun h => hb (by rw [Path.place_child]; exact h.child _)
    obtain ⟨d', hens, hmade⟩ := ih.free hb'
    obtain ⟨es, hes, hold⟩ := hmade.entries
    have hempty : es = [] := by
      rcases hold with rfl | rfl
      · rw [hn] at hes
        cases hes
      · rfl
    subst hempty
    have hfollow := follow_child hp hf hes
    have hmissing : d'.root.get? (p.place ++ [FileName.stored a]) = none := Node.get?_entry hes _
    refine ⟨_, hok d' _ hens (makeFolder_child ha hfollow hmissing), ?_⟩
    rw [Path.place_child]
    exact hmade.child hes rfl

/-- **Making a folder.**  It fails if and only if a file is in the way. -/
theorem ensures (d : Disk) (p : Path) (hp : p.IsStraight) (hf : Fits p) : Ensures d p := by
  obtain ⟨slashes, parts⟩ := p
  obtain rfl : slashes = 1 := hp.slashes
  induction parts using List.reverseRecOn with
  | nil =>
    have hroot : (⟨1, []⟩ : Path).place = [] := rfl
    exact ensures_of_get? (follow_root hp hf rfl) (by rw [hroot]; exact Node.get?_nil _)
  | append_singleton parts a ih =>
    change (Path.child ⟨1, parts⟩ a).IsStraight at hp
    change Fits (Path.child ⟨1, parts⟩ a) at hf
    show Ensures d (Path.child ⟨1, parts⟩ a)
    have ha : a ≠ Path.up := by
      rintro rfl
      exact hp.up (List.mem_append_right _ (List.mem_singleton_self _))
    have hparent : (⟨1, parts⟩ : Path).IsStraight :=
      ⟨rfl, fun hm => hp.up (List.mem_append_left _ hm)⟩
    have ih := ih hparent (hf.of_child rfl)
    cases hfollow : d.follow (Path.child ⟨1, parts⟩ a) with
    | ok place =>
      obtain ⟨es, hes⟩ := exists_folder_of_follow hp hf hfollow
      exact ensures_child_of_folder hp ha hf hes
    | error f =>
      rcases exists_of_follow_error hp hf hfollow with
        ⟨s, x, rfl, hs, hn⟩ | ⟨s, c, x, rfl, hs, hc⟩
      · exact ensures_child_of_missing hp ha hf hfollow (Node.get?_eq_none_of_isPrefix hs hn) ih
      · exact ensures_child_of_file hs hc hfollow

end Disk

end ValidatorGen
