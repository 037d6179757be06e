import ValidatorGen.Proofs.Disk.Write

/-!
# Making a folder again

A folder that has been made is there when it is to be made again, and what could not be made cannot
be made then either.  But one thing may change in between.  Of a path with a name that is too long,
the folders in front of that name are made, if they are missing, and the refusal is about the path
up to the name; the next time these folders are there, and the refusal is about the whole path.

* `followFrom_cases` — how far a way is followed;
* `IsLong`, `IsLong.follow_cases` — what the disk says to a path with a name that is too long;
* `Stops`, `Stops.ensureFolder` — where folders are made in front of such a name;
* `ensureFolder_cases` — how making a folder ends, for any path.
-/

namespace ValidatorGen.Disk

variable {d d' : Disk} {p above : Path} {a long : Text} {below : List Text}

/-! ## Paths that the disk is asked about -/

/-- The disk can be asked about all that is on the way to a path that it can be asked about. -/
theorem Sayable.of_append {parts rest : List Text} (h : Sayable ⟨1, parts ++ rest⟩) :
    Sayable ⟨1, parts⟩ := by
  induction rest using List.reverseRecOn with
  | nil => rwa [List.append_nil] at h
  | append_singleton rest a ih =>
    rw [← List.append_assoc] at h
    exact ih (Sayable.of_child (p := ⟨1, parts ++ rest⟩) rfl h)

/-- That the disk cannot be asked is not its own trouble. -/
theorem isTrouble_of_unaskable? {f : DiskFault} (h : unaskable? p = some f) :
    f.isTrouble = false := by
  unfold unaskable? at h
  split at h
  · cases h
    rfl
  · split_ifs at h
    cases h
    rfl

/-- What is refused for its length is not made. -/
theorem ensureFolder_of_tooLong (h : d.follow p = .error (.of .nameTooLong p.text)) :
    d.ensureFolder p = (d, .error (.of .nameTooLong p.text)) := by
  have hfolder : d.isFolder p = .error (.of .nameTooLong p.text) := by
    unfold isFolder find? find
    rw [h]
    rfl
  have hunless : d.unlessFolder p (.of .nameTooLong p.text) = .error (.of .nameTooLong p.text) := by
    unfold unlessFolder DiskFault.of
    rw [hfolder]
    rfl
  rw [ensureFolder, makeFolder_of_follow_error h]
  exact congrArg (Prod.mk d) hunless

/-- About any other path the disk says the same whatever is on it, and makes nothing. -/
theorem ensureFolder_of_not_sayable (h : ¬ Sayable p) : ∃ f, d.ensureFolder p = (d, .error f) := by
  cases hask : unaskable? p with
  | some f =>
    have hfollow : d.follow p = .error f := by
      unfold follow
      rw [hask]
    have htrouble := isTrouble_of_unaskable? hask
    refine ⟨f, ?_⟩
    rw [ensureFolder, makeFolder_of_follow_error hfollow]
    cases f with
    | trouble => cases htrouble
    | _ => rfl
  | none =>
    have hlong : maxPath ≤ FileName.size p.text := Nat.not_lt.1 fun hshort => h ⟨hask, hshort⟩
    have hfollow : d.follow p = .error (.of .nameTooLong p.text) := by
      unfold follow
      rw [hask]
      exact if_pos hlong
    exact ⟨_, ensureFolder_of_tooLong hfollow⟩

/-! ## How far a way is followed -/

theorem followFrom_append (place parts rest : List Text) :
    d.followFrom place (parts ++ rest)
      = (d.followFrom place parts).bind fun q => d.followFrom q rest := by
  induction parts generalizing place with
  | nil => rfl
  | cons a parts ih =>
    simp only [List.cons_append, followFrom]
    split
    · rfl
    · rfl
    · split_ifs
      · exact ih _
      · rfl
      · exact ih _

theorem eq_of_followFrom {place parts q : List Text} (hup : Path.up ∉ parts)
    (h : d.followFrom place parts = .ok q) : q = place ++ parts.map FileName.stored := by
  induction parts generalizing place with
  | nil =>
    rw [← Except.ok.inj h, List.map_nil, List.append_nil]
  | cons a parts ih =>
    rw [List.mem_cons, not_or] at hup
    unfold followFrom at h
    split at h
    · cases h
    · cases h
    · rw [if_neg (Ne.symm hup.1)] at h
      split_ifs at h
      rw [ih hup.2 h, List.map_cons, ← List.append_cons]

/-- A way that ends where something is missing has met no file. -/
theorem not_file_of_followFrom {place parts s : List Text} {c : List UInt8} (hup : Path.up ∉ parts)
    (h : d.followFrom place parts = .error .noEntry) (hs : s <+: parts.map FileName.stored) :
    d.root.get? (place ++ s) ≠ some (.file c) := by
  induction parts generalizing place s with
  | nil => cases h
  | cons a parts ih =>
    rw [List.mem_cons, not_or] at hup
    unfold followFrom at h
    split at h
    · next hnone =>
      rw [Node.get?_eq_none_of_isPrefix (List.prefix_append place s) hnone]
      exact (Option.some_ne_none _).symm
    · cases h
    · next es hes =>
      rw [if_neg (Ne.symm hup.1)] at h
      split_ifs at h
      · cases h
      cases s with
      | nil =>
        rw [List.append_nil, hes]
        rintro ⟨⟩
      | cons b s =>
        obtain ⟨rfl, hrest⟩ := List.cons_prefix_cons.1 hs
        rw [List.append_cons]
        exact ih hup.2 h hrest

/-- A way goes on from a folder, ends where something is missing, or is blocked by a file. -/
theorem followFrom_cases {parts rest : List Text} (hup : Path.up ∉ parts ++ rest)
    (hsize : ∀ a ∈ parts, FileName.size a ≤ maxName) (hrest : rest ≠ []) :
    (∃ es, d.root.get? (parts.map FileName.stored) = some (.folder es) ∧
        d.followFrom [] (parts ++ rest) = d.followFrom (parts.map FileName.stored) rest) ∨
      (d.followFrom [] (parts ++ rest) = .error .noEntry ∧
        d.root.get? (parts.map FileName.stored) = none ∧
        ¬ d.root.Blocks (parts.map FileName.stored)) ∨
      (d.followFrom [] (parts ++ rest) = .error .notFolder ∧
        d.root.Blocks (parts.map FileName.stored)) := by
  have hfree : d.followFrom [] (parts ++ rest) = .error .noEntry →
      ¬ d.root.Blocks (parts.map FileName.stored) := by
    rintro h ⟨s, c, hs, hc⟩
    have hway : s <+: (parts ++ rest).map FileName.stored := by
      rw [List.map_append]
      exact hs.trans (List.prefix_append _ _)
    exact not_file_of_followFrom hup h hway (Node.kindAt?_eq_file.1 hc)
  have hstart : Path.up ∉ parts := fun hm => hup (List.mem_append_left _ hm)
  obtain ⟨b, rest, rfl⟩ := List.exists_cons_of_ne_nil hrest
  rw [followFrom_append] at hfree ⊢
  cases hparts : d.followFrom [] parts with
  | error t =>
    rw [hparts] at hfree
    obtain ⟨s, hs, hcase⟩ := exists_of_followFrom_error hstart hsize hparts
    have hs : s <+: parts.map FileName.stored := hs.trans ((List.dropLast_prefix parts).map _)
    rw [List.nil_append] at hcase
    rcases hcase with ⟨rfl, hnone⟩ | ⟨rfl, c, hc⟩
    · exact .inr (.inl ⟨rfl, Node.get?_eq_none_of_isPrefix hs hnone, hfree rfl⟩)
    · exact .inr (.inr ⟨rfl, s, c, hs, Node.kindAt?_eq_file.2 hc⟩)
  | ok q =>
    obtain rfl : q = parts.map FileName.stored := eq_of_followFrom hstart hparts
    rw [hparts] at hfree
    rw [Except.bind] at hfree ⊢
    cases hn : d.root.get? (parts.map FileName.stored) with
    | none =>
      have hend : d.followFrom (parts.map FileName.stored) (b :: rest) = .error .noEntry := by
        rw [followFrom, hn]
      exact .inr (.inl ⟨hend, rfl, hfree hend⟩)
    | some n =>
      cases n with
      | folder es => exact .inl ⟨es, rfl, rfl⟩
      | file c =>
        refine .inr (.inr ⟨?_, _, c, List.prefix_rfl, Node.kindAt?_eq_file.2 hn⟩)
        rw [followFrom, hn]

/-! ## A name that is too long -/

/-- A path with a name that is too long, and no name in front of it is. -/
structure IsLong (p above : Path) (long : Text) (below : List Text) : Prop where
  eq : p = ⟨1, above.parts ++ long :: below⟩
  root : above.slashes = 1
  straight : p.IsStraight
  sayable : Sayable p
  names : ∀ a ∈ above.parts, FileName.size a ≤ maxName
  long : maxName < FileName.size long

/-- A path that the disk can be asked about fits, unless one of its names is too long. -/
theorem Sayable.fits_or_isLong (hp : p.IsStraight) (h : Sayable p) :
    Fits p ∨ ∃ above long below, IsLong p above long below := by
  by_cases hnames : ∀ a ∈ p.parts, FileName.size a ≤ maxName
  · exact .inl ⟨h.askable, h.short, hnames⟩
  · right
    let good : Text → Bool := fun a => FileName.size a ≤ maxName
    cases hrest : p.parts.dropWhile good with
    | nil =>
      refine absurd (fun a ha => ?_) hnames
      exact of_decide_eq_true (List.dropWhile_eq_nil_iff.1 hrest a ha)
    | cons long below =>
      have hparts : p.parts = p.parts.takeWhile good ++ long :: below := by
        rw [← hrest, List.takeWhile_append_dropWhile]
      refine ⟨⟨1, p.parts.takeWhile good⟩, long, below, ?_, rfl, hp, h, fun a ha => ?_, ?_⟩
      · rw [← hparts, ← hp.slashes]
      · have hgood : good a = true := List.mem_takeWhile_imp ha
        exact of_decide_eq_true hgood
      · have hsome : p.parts.dropWhile good ≠ [] := by
          rw [hrest]
          exact List.cons_ne_nil long below
        have hbad : good long = false := by
          have hhead := List.head_dropWhile_not good hsome
          simpa only [hrest, List.head_cons] using hhead
        exact Nat.not_le.1 (of_decide_eq_false hbad)

namespace IsLong

variable (h : IsLong p above long below)
include h

theorem up_not_mem : Path.up ∉ above.parts := by
  have hup := h.straight.up
  rw [h.eq] at hup
  exact fun hm => hup (List.mem_append_left _ hm)

theorem above_straight : above.IsStraight := ⟨h.root, h.up_not_mem⟩

theorem above_eq : above = ⟨1, above.parts⟩ := by rw [← h.root]

/-- The folder in front of the name fits. -/
theorem above_fits : Fits above := by
  have hsayable : Sayable ⟨1, above.parts⟩ := Sayable.of_append (h.eq ▸ h.sayable)
  rw [← h.above_eq] at hsayable
  exact ⟨hsayable.askable, hsayable.short, h.names⟩

/-- What the disk says to such a path depends on what is in front of the name. -/
theorem follow_cases (d : Disk) :
    (∃ es, d.root.get? above.place = some (.folder es) ∧
        d.follow p = .error (.of .nameTooLong p.text)) ∨
      (d.root.get? above.place = none ∧ ¬ d.root.Blocks above.place ∧
        d.follow p = .error (.of .noEntry p.text)) ∨
      (d.root.Blocks above.place ∧ d.follow p = .error (.of .notFolder p.text)) := by
  have hparts : p.parts = above.parts ++ long :: below := by rw [h.eq]
  have hup : long ≠ Path.up := by
    rintro rfl
    exact h.straight.up (by rw [hparts]; simp)
  have hway : Path.up ∉ above.parts ++ long :: below := hparts ▸ h.straight.up
  rw [follow_of_sayable h.straight h.sayable, hparts]
  rcases followFrom_cases (d := d) hway h.names (List.cons_ne_nil long below) with
    ⟨es, hes, hfollow⟩ | ⟨hfollow, hnone, hfree⟩ | ⟨hfollow, hblocks⟩
  · refine .inl ⟨es, hes, ?_⟩
    rw [hfollow, followFrom, hes]
    dsimp only
    rw [if_neg hup, if_pos h.long]
  · exact .inr (.inl ⟨hnone, hfree, by rw [hfollow]⟩)
  · exact .inr (.inr ⟨hblocks, by rw [hfollow]⟩)

/-- In a folder it is refused for its length. -/
theorem follow_of_folder {es : List (Text × Node)}
    (hes : d.root.get? above.place = some (.folder es)) :
    d.follow p = .error (.of .nameTooLong p.text) := by
  rcases h.follow_cases d with ⟨-, -, hfollow⟩ | ⟨hnone, -⟩ | ⟨hblocks, -⟩
  · exact hfollow
  · rw [hes] at hnone
    cases hnone
  · exact absurd hblocks (Node.not_blocks_of_folder hes)

omit h in
/-- The folder that the last name is in. -/
theorem exists_parent {b : Text} (h : IsLong p above long (below ++ [b])) :
    ∃ q : Path, p = q.child b ∧ IsLong q above long below := by
  have heq : p = Path.child ⟨1, above.parts ++ long :: below⟩ b := by
    rw [h.eq, Path.child, List.append_assoc]
    rfl
  refine ⟨_, heq, rfl, h.root, ⟨rfl, fun hup => h.straight.up ?_⟩, ?_, h.names, h.long⟩
  · rw [heq]
    exact List.mem_append_left _ hup
  · exact Sayable.of_child rfl (heq ▸ h.sayable)

end IsLong

/-! ## Folders that are made in front of it -/

/-- What is refused behind a folder that had to be made. -/
theorem ensureFolder_of_behind {x : Text}
    (h : d.makeFolder (p.child a) = .error (.of .noEntry x)) (hp : d.ensureFolder p = (d', .ok ()))
    (ha : d'.follow (p.child a) = .error (.of .nameTooLong (p.child a).text)) :
    d.ensureFolder (p.child a) = (d', .error (.of .nameTooLong (p.child a).text)) := by
  have hne : (p.child a).parts ≠ [] := List.append_ne_nil_of_right_ne_nil _ (List.cons_ne_nil a [])
  have hagain := ensureFolder_of_tooLong ha
  rw [ensureFolder, makeFolder_of_follow_error ha] at hagain
  rw [ensureFolder, h]
  simp only [DiskFault.of, hne, dite_false, Path.parent_child, hp, makeFolder_of_follow_error ha]
  exact hagain

/-- The folders in front of a name that is too long are missing, and nothing is in their way. -/
structure Stops (d : Disk) (p above : Path) (long : Text) (below : List Text) : Prop
    extends IsLong p above long below where
  missing : d.root.get? above.place = none
  free : ¬ d.root.Blocks above.place

namespace Stops

theorem follow (h : Stops d p above long below) : d.follow p = .error (.of .noEntry p.text) := by
  rcases h.toIsLong.follow_cases d with ⟨es, hes, -⟩ | ⟨-, -, hfollow⟩ | ⟨hblocks, -⟩
  · rw [h.missing] at hes
    cases hes
  · exact hfollow
  · exact absurd hblocks h.free

/-- The folders in front of the name can be made. -/
theorem exists_made (h : Stops d p above long below) :
    ∃ d', d.ensureFolder above = (d', .ok ()) ∧ Made d d' above.place :=
  (ensures d above h.above_straight h.above_fits).free h.free

/-- They are made, and the refusal is about the path up to the name. -/
theorem ensureFolder (h : Stops d p above long below) (hens : d.ensureFolder above = (d', .ok ()))
    (hmade : Made d d' above.place) :
    d.ensureFolder p = (d', .error (.of .nameTooLong (above.child long).text)) := by
  obtain ⟨es, hes, -⟩ := hmade.entries
  have hmissing := makeFolder_of_follow_error h.follow
  induction below using List.reverseRecOn generalizing p with
  | nil =>
    obtain rfl : p = above.child long := by rw [h.eq, Path.child, h.root]
    exact ensureFolder_of_behind hmissing hens (h.toIsLong.follow_of_folder hes)
  | append_singleton below b ih =>
    obtain ⟨q, rfl, hlong⟩ := h.toIsLong.exists_parent
    have hstops : Stops d q above long below := ⟨hlong, h.missing, h.free⟩
    have hparent := ih hstops (makeFolder_of_follow_error hstops.follow)
    exact (ensureFolder_of_missing hmissing).1 d' _ hparent

/-- The next time they are there, and the refusal is about the whole path. -/
theorem ensureFolder_again (h : Stops d p above long below) (hmade : Made d d' above.place) :
    d'.ensureFolder p = (d', .error (.of .nameTooLong p.text)) := by
  obtain ⟨es, hes, -⟩ := hmade.entries
  exact ensureFolder_of_tooLong (h.toIsLong.follow_of_folder hes)

end Stops

/-! ## Any path -/

/-- Making a folder comes to its end, or is refused and leaves everything, or makes folders in front
of a name that is too long. -/
theorem ensureFolder_cases (d : Disk) (hp : p.IsStraight) :
    (∃ d', d.ensureFolder p = (d', .ok ()) ∧ Fits p ∧ Made d d' p.place) ∨
      (∃ f, d.ensureFolder p = (d, .error f)) ∨
      ∃ above long below, Stops d p above long below := by
  by_cases hsayable : Sayable p
  · rcases hsayable.fits_or_isLong hp with hfits | ⟨above, long, below, hlong⟩
    · by_cases hblocks : d.root.Blocks p.place
      · obtain ⟨f, -, hens⟩ := (ensures d p hp hfits).blocked hblocks
        exact .inr (.inl ⟨f, hens⟩)
      · obtain ⟨d', hens, hmade⟩ := (ensures d p hp hfits).free hblocks
        exact .inl ⟨d', hens, hfits, hmade⟩
    · rcases hlong.follow_cases d with ⟨es, hes, -⟩ | ⟨hnone, hfree, -⟩ | ⟨-, hfollow⟩
      · exact .inr (.inl ⟨_, ensureFolder_of_tooLong (hlong.follow_of_folder hes)⟩)
      · exact .inr (.inr ⟨above, long, below, hlong, hnone, hfree⟩)
      · have hens := ensureFolder_of_refused (makeFolder_of_follow_error hfollow) (by decide)
          (isFolder_of_follow_error hfollow (by decide))
        exact .inr (.inl ⟨_, hens⟩)
  · exact .inr (.inl (ensureFolder_of_not_sayable hsayable))

end ValidatorGen.Disk
