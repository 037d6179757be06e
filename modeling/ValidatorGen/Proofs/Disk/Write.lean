import ValidatorGen.Proofs.Disk.Folder

/-!
# Writing through a temporary file

In a folder a text is written to a temporary file, which is moved over the file or removed again.
Either way no trace of the temporary file is left.

* `replace_entry`, `writeText_entry` — what becomes of the entries of the folder;
* `writesUnlessFolder_iff` — when nothing but a folder in the place of the file is in the way.
-/

namespace ValidatorGen.Disk

variable {d : Disk} {p : Path} {word name text : Text} {q : List Text} {es : List (Text × Node)}

/-- There is a folder under this name. -/
def HoldsFolder (es : List (Text × Node)) (a : Text) : Bool :=
  (Ordered.get? a es).any (·.isFolder)

/-- Nothing is below what is no folder. -/
theorem kindAt?_of_not_holdsFolder {a b : Text} (h : HoldsFolder es a = false) (t : List Text) :
    (Ordered.get? a es).bind (·.kindAt? (b :: t)) = none := by
  unfold HoldsFolder at h
  rcases hget : Ordered.get? a es with _ | ⟨c⟩ | ⟨es'⟩
  · rfl
  · rfl
  · rw [hget] at h
    cases h

/-- The disk with these entries in a folder. -/
def withEntries (d : Disk) (q : List Text) (es : List (Text × Node)) : Disk :=
  { d with root := d.root.set (.folder es) q }

theorem get?_withEntries (h : d.root.get? q = some (.folder es)) (es' : List (Text × Node)) :
    (d.withEntries q es').root.get? q = some (.folder es') :=
  Node.get?_set_self h _

theorem withEntries_withEntries (h : d.root.get? q = some (.folder es))
    (es' es'' : List (Text × Node)) :
    (d.withEntries q es').withEntries q es'' = d.withEntries q es'' :=
  congrArg (fun root => { d with root }) (Node.set_set h _ _)

theorem withEntries_self (h : d.root.get? q = some (.folder es)) : d.withEntries q es = d :=
  congrArg (fun root => { d with root }) (Node.set_get? h)

/-! ## The temporary file -/

theorem temporaryName_ne_up (word name : Text) : temporaryName word name ≠ Path.up := by
  intro h
  have hlength := congrArg List.length h
  have hdot : ("." : Text).length = 1 := rfl
  have htmp : (".tmp" : Text).length = 4 := rfl
  have hup : Path.up.length = 2 := rfl
  rw [temporaryName, List.length_append, List.length_append, List.length_append,
    List.length_append, hdot, htmp, hup] at hlength
  omega

/-- A new file in a folder gets a name that is not taken. -/
theorem exists_free (h : d.root.get? q = some (.folder es)) (a : Text) :
    ∃ b, d.free (q ++ [a]) = q ++ [b] ∧ b ∉ Ordered.keys es := by
  unfold free
  rw [Node.get?_entry h]
  cases ha : Ordered.get? a es with
  | none => exact ⟨a, rfl, Ordered.get?_eq_none_iff.1 ha⟩
  | some n =>
    simp only [Option.isSome_some, if_true, List.dropLast_concat, List.getLast?_concat, h]
    refine ⟨_, rfl, fun hmem => ?_⟩
    have hlength := (List.sublist_flatten_of_mem hmem).length_le
    have htilde : ("~" : Text).length = 1 := rfl
    rw [List.length_append, List.length_append, htilde] at hlength
    simp only [Option.elim_some, Node.entries] at hlength
    omega

/-- The temporary file for a file in a folder. -/
def temporary (word : Text) (p : Path) (name : Text) : Path := p.child (temporaryName word name)

/-- A file fits if the temporary file for it does. -/
theorem Fits.of_temporary (hp : p.slashes = 1) (h : Fits (temporary word p name)) :
    Fits (p.child name) := by
  refine Fits.child_of hp h ?_ ?_
  · intro c hc
    simp [temporaryName, hc]
  · unfold temporaryName
    rw [FileName.size_append, FileName.size_append, FileName.size_append, FileName.size_append]
    omega

/-! ## Moving it -/

/-- A file of the folder is moved over another one, unless that is a folder. -/
theorem move_entry {a : Text} {n : Node} {source : Path} (hp : (p.child name).IsStraight)
    (hname : name ≠ Path.up) (hf : Fits (p.child name))
    (hq : d.root.get? p.place = some (.folder es)) (ha : Ordered.get? a es = some n) :
    d.move (p.place ++ [a]) source (p.child name)
      = if HoldsFolder es (FileName.stored name) then
          .error (.trouble .isFolder source.text (some (p.child name).text))
        else .ok ⟨(d.root.remove (p.place ++ [a])).set n (p.place ++ [FileName.stored name]),
          d.cwd⟩ := by
  unfold move HoldsFolder
  simp only [endsInName_child p hname, Bool.not_true, Bool.false_eq_true, if_false,
    follow_child hp hf hq]
  rw [Node.get?_entry hq, Node.get?_entry hq, ha]
  rcases Ordered.get? (FileName.stored name) es with _ | ⟨c⟩ | ⟨es'⟩ <;> rfl

/-- The whole write: the file is there afterwards, or all is as it was. -/
theorem replace_entry (hp : p.IsStraight) (hname : name ≠ Path.up)
    (hf : Fits (temporary word p name)) (hq : d.root.get? p.place = some (.folder es))
    (content : List UInt8) :
    d.replace word (p.child name) content
      = if HoldsFolder es (FileName.stored name) then
          (d, .error (.trouble .isFolder (temporary word p name).text (some (p.child name).text)))
        else (d.withEntries p.place (Ordered.put (FileName.stored name) (.file content) es),
          .ok ()) := by
  have htemporary : ((p.child name).parent.absolutePath d.cwd).child
      (temporaryName word (p.child name).name) = temporary word p name := by
    rw [Path.parent_child, Path.name_child, hp.absolutePath]
    rfl
  have hfollow := follow_child (hp.child (temporaryName_ne_up word name)) hf hq
  obtain ⟨b, hfree, hb⟩ := exists_free hq (FileName.stored (temporaryName word name))
  have hwritten : (d.root.set (.file content) (p.place ++ [b])).get? p.place
      = some (.folder (Ordered.put b (.file content) es)) := by
    rw [Node.set_entry hq, Node.get?_set_self hq]
  -- the temporary file is no folder, so that it makes no difference for the move
  have hsame : HoldsFolder (Ordered.put b (.file content) es) (FileName.stored name)
      = HoldsFolder es (FileName.stored name) := by
    unfold HoldsFolder
    by_cases hb' : b = FileName.stored name
    · subst hb'
      rw [Ordered.get?_put_self, Ordered.get?_eq_none_iff.2 hb]
      rfl
    · rw [Ordered.get?_put_of_ne hb']
  unfold replace
  rw [htemporary]
  simp only [temporary, hfollow, hfree] at *
  rw [move_entry (d := { d with root := d.root.set (.file content) (p.place ++ [b]) })
    (hp.child hname) hname (hf.of_temporary hp.slashes) hwritten (Ordered.get?_put_self _ _ _),
    hsame]
  by_cases hfolder : HoldsFolder es (FileName.stored name) = true
  · simp only [hfolder, if_true]
    rw [Node.remove_set_entry hq hb]
  · simp only [hfolder]
    rw [Node.remove_set_entry hq hb, Node.set_entry hq]
    rfl

/-! ## The whole write -/

theorem ensureFolder_of_folder (hp : p.IsStraight) (hf : Fits p)
    (hq : d.root.get? p.place = some (.folder es)) : d.ensureFolder p = (d, .ok ()) := by
  have hfollow := follow_of_get? hp hf hq
  have hmake := makeFolder_of_get? hfollow (by rw [hq]; rfl)
  have hens := ensureFolder_of_refused hmake (by decide) (isFolder_of_follow hfollow)
  rw [hq] at hens
  exact hens

/-- Nothing about the names and the text is in the way of a write. -/
structure CanWrite (word : Text) (p : Path) (name text : Text) : Prop where
  fits : Fits (temporary word p name)
  whole : Text.Utf8.halves? text = none

/-- A write of a text to a file of a folder. -/
theorem writeText_entry (hp : p.IsStraight) (hname : name ≠ Path.up)
    (h : CanWrite word p name text) (hq : d.root.get? p.place = some (.folder es)) :
    d.writeText word true (p.child name) text
      = if HoldsFolder es (FileName.stored name) then
          (d, .error (.trouble .isFolder (temporary word p name).text (some (p.child name).text)))
        else (d.withEntries p.place
          (Ordered.put (FileName.stored name) (.file (Text.Utf8.encode text)) es),
          .ok (Text.Utf8.encode text).length) := by
  unfold writeText
  rw [Path.parent_child, ensureFolder_of_folder hp (h.fits.of_child hp.slashes) hq]
  simp only [h.whole, if_true, replace_entry hp hname h.fits hq]
  split_ifs <;> rfl

/-- Whatever is in a folder, a write to one of its files fails only if a folder is in its place. -/
def WritesUnlessFolder (word : Text) (p : Path) (name text : Text) : Prop :=
  ∀ (d : Disk) (es : List (Text × Node)) (f : DiskFault), d.root.get? p.place = some (.folder es) →
    (d.writeText word true (p.child name) text).2 = .error f →
      HoldsFolder es (FileName.stored name) = true

/-- A write that does not fail shows that nothing is in its way. -/
theorem canWrite_of_writeText (hp : p.IsStraight) {n : Nat}
    (h : (d.writeText word true (p.child name) text).2 = .ok n) : CanWrite word p name text := by
  unfold writeText at h
  rw [Path.parent_child] at h
  obtain ⟨⟨d', result⟩, hens⟩ : ∃ e, d.ensureFolder p = e := ⟨_, rfl⟩
  rw [hens] at h
  cases result with
  | error f => cases h
  | ok _ =>
    dsimp only at h
    cases hw : Text.Utf8.halves? text with
    | some x =>
      rw [hw] at h
      cases h
    | none =>
      rw [hw] at h
      refine ⟨?_, hw⟩
      unfold replace at h
      simp only [if_true, Path.parent_child, Path.name_child, hp.absolutePath] at h
      cases hfollow : d'.follow (p.child (temporaryName word name)) with
      | error f =>
        rw [hfollow] at h
        cases h
      | ok place => exact fits_of_follow (hp.child (temporaryName_ne_up word name)) hfollow

/-- That writes fail for no other reason is a matter of the names and of the text. -/
theorem writesUnlessFolder_iff (hp : p.IsStraight) (hname : name ≠ Path.up) :
    WritesUnlessFolder word p name text ↔ CanWrite word p name text := by
  constructor
  · intro h
    let d : Disk := ⟨.way p.place, []⟩
    cases hw : (d.writeText word true (p.child name) text).2 with
    | ok n => exact canWrite_of_writeText hp hw
    | error f =>
      have hfolder := h d [] f (Node.way_get? p.place) hw
      cases hfolder
  · intro h d es f hq hw
    rw [writeText_entry hp hname h hq] at hw
    split_ifs at hw with hfolder
    exact hfolder

end ValidatorGen.Disk
