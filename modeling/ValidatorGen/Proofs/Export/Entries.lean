import ValidatorGen.Proofs.Export.Steps

/-!
# Cleaning and writing twice

The entries of a folder after it has been cleaned and files have been written to it twice are those
after it has been done once.

* `under` — the entries of one name, of which there may be several;
* `under_putFiles`, `under_kept` — what writing files and cleaning make of them;
* `holdsFolder_again`, `get?_again` — the second time nothing is different.
-/

namespace ValidatorGen

open Disk (HoldsFolder)

namespace Ordered

universe u v

variable {κ : Type u} {α : Type v} [BEq κ]

/-- The entries of a key. -/
def under (k : κ) (m : List (κ × α)) : List (κ × α) := m.filter (·.1 == k)

theorem under_cons (k : κ) (e : κ × α) (m : List (κ × α)) :
    under k (e :: m) = if e.1 == k then e :: under k m else under k m := List.filter_cons

/-- The first of them counts. -/
theorem get?_eq_under (k : κ) (m : List (κ × α)) : get? k m = (under k m).head?.map Prod.snd := by
  induction m with
  | nil => rfl
  | cons e m ih =>
    rw [get?_cons, under_cons]
    split_ifs
    · rfl
    · exact ih

variable [LawfulBEq κ]

theorem under_put_self (k : κ) (v : α) (m : List (κ × α)) :
    under k (put k v m) = (k, v) :: (under k m).tail := by
  induction m with
  | nil => simp [put, putBy, under]
  | cons e m ih =>
    rw [put_cons, under_cons]
    split_ifs with he
    · rw [under_cons, if_pos he, eq_of_beq he]
      rfl
    · rw [under_cons, if_neg he, ih]

theorem under_put_of_ne {k k' : κ} (h : k ≠ k') (v : α) (m : List (κ × α)) :
    under k' (put k v m) = under k' m := by
  induction m with
  | nil => simp [put, putBy, under, h]
  | cons e m ih =>
    rw [put_cons]
    by_cases he : e.1 = k
    · have hne : ¬ (e.1 == k') = true := by simpa [he] using h
      rw [if_pos (by simpa using he), under_cons, under_cons, if_neg hne, if_neg hne]
    · rw [if_neg (by simpa using he), under_cons, under_cons, ih]

end Ordered

namespace Export

open Ordered (under)

variable {es : List (Text × Node)} {fs fs' : List (Text × Text)} {a : Text} {clean : Bool}

theorem holdsFolder_eq_under (es : List (Text × Node)) (a : Text) :
    HoldsFolder es a = (under a es).head?.any (·.2.isFolder) := by
  rw [HoldsFolder, Ordered.get?_eq_under]
  cases (under a es).head? <;> rfl

/-- The last file that is listed under a name. -/
def last? (a : Text) (fs : List (Text × Text)) : Option (Text × Text) :=
  fs.reverse.find? (FileName.stored ·.1 == a)

/-- What writing some files makes of the entries of a name. -/
theorem under_putFiles (es : List (Text × Node)) (fs : List (Text × Text)) (a : Text) :
    under a (putFiles es fs) = if HoldsFolder es a then under a es
      else match last? a fs with
        | none => under a es
        | some f => (a, .file (Text.Utf8.encode f.2)) :: (under a es).tail := by
  induction fs using List.reverseRecOn with
  | nil => exact (ite_self _).symm
  | append_singleton fs f ih =>
    rw [putFiles_concat, last?, List.reverse_append, List.reverse_singleton, List.singleton_append,
      List.find?_cons]
    by_cases ha : FileName.stored f.1 = a
    · subst ha
      rw [beq_self_eq_true]
      cases hfolder : HoldsFolder es (FileName.stored f.1) with
      | true =>
        rw [hfolder] at ih
        rw [putFile, barred_putFiles, barred, hfolder, if_pos rfl, ih]
        rfl
      | false =>
        rw [hfolder] at ih
        rw [putFile, barred_putFiles, barred, hfolder, if_neg Bool.false_ne_true,
          Ordered.under_put_self, ih, if_neg Bool.false_ne_true, if_neg Bool.false_ne_true]
        cases last? (FileName.stored f.1) fs <;> rfl
    · rw [beq_eq_false_iff_ne.2 ha]
      have hsame : under a (putFile (putFiles es fs) f) = under a (putFiles es fs) := by
        unfold putFile
        split_ifs
        · rfl
        · exact Ordered.under_put_of_ne ha _ _
      rw [hsame, ih]
      rfl

theorem under_kept (clean : Bool) (es : List (Text × Node)) (a : Text) :
    under a (kept clean es) = kept clean (under a es) := by
  unfold kept under
  split_ifs
  · exact List.filter_comm _ _ _
  · rfl

theorem kept_kept (clean : Bool) (es : List (Text × Node)) :
    kept clean (kept clean es) = kept clean es := by
  unfold kept
  split_ifs
  · rw [List.filter_filter]
    simp
  · rfl

/-- Cleaning leaves nothing stale. -/
theorem not_isStale_of_mem_kept {e : Text × Node} (h : e ∈ kept true es) : isStale e = false := by
  rw [kept, if_pos rfl] at h
  simpa using (List.mem_filter.1 h).2

theorem kept_eq_self (clean : Bool) (h : ∀ e ∈ es, isStale e = false) : kept clean es = es := by
  unfold kept
  split_ifs
  · refine List.filter_eq_self.2 fun e he => ?_
    rw [h e he]
    rfl
  · rfl

/-- What is left of a name when a folder that has been cleaned and written to is cleaned again: all of
it, or a file has taken the first place. -/
theorem under_again_cases (clean : Bool) (es : List (Text × Node)) (fs : List (Text × Text))
    (a : Text) :
    under a (kept clean (putFiles (kept clean es) fs)) = under a (kept clean es) ∨
      HoldsFolder (kept clean es) a = false ∧ (last? a fs).isSome = true ∧ ∃ content,
        under a (kept clean (putFiles (kept clean es) fs))
          = (a, .file content) :: (under a (kept clean es)).tail := by
  have hkept : kept clean (under a (kept clean es)) = under a (kept clean es) := by
    rw [← under_kept, kept_kept]
  rw [under_kept, under_putFiles]
  cases hfolder : HoldsFolder (kept clean es) a with
  | true => exact .inl hkept
  | false =>
    rw [if_neg Bool.false_ne_true]
    cases last? a fs with
    | none => exact .inl hkept
    | some f =>
      cases clean with
      | false => exact .inr ⟨rfl, rfl, _, rfl⟩
      | true =>
        have hfresh : ∀ e ∈ under a (kept true es), isStale e = false := fun e he =>
          not_isStale_of_mem_kept (List.mem_filter.1 he).1
        dsimp only
        cases hstale : isStale (a, .file (Text.Utf8.encode f.2)) with
        | true =>
          -- a name that is stale can only be that of folders, and the first one is none
          have hnone : under a (kept true es) = [] := by
            rw [holdsFolder_eq_under] at hfolder
            cases hunder : under a (kept true es) with
            | nil => rfl
            | cons e rest =>
              rw [hunder] at hfolder hfresh
              have hkey : e.1 = a := by
                have hmem : e ∈ under a (kept true es) := hunder ▸ List.mem_cons_self
                exact eq_of_beq (List.mem_filter.1 hmem).2
              obtain ⟨name, n⟩ := e
              obtain rfl : name = a := hkey
              cases n with
              | folder es' => cases hfolder
              | file c =>
                have hold : isStale (name, .file c) = false := hfresh _ List.mem_cons_self
                exact absurd (hstale.symm.trans hold) Bool.true_eq_false.mp
          left
          rw [hnone, kept, if_pos rfl]
          simp [hstale]
        | false =>
          refine .inr ⟨rfl, rfl, _, kept_eq_self true fun e he => ?_⟩
          rcases List.mem_cons.1 he with rfl | he
          · exact hstale
          · exact hfresh e (List.mem_of_mem_tail he)

/-- The second time the same names are folders. -/
theorem holdsFolder_again (clean : Bool) (es : List (Text × Node)) (fs : List (Text × Text)) :
    HoldsFolder (kept clean (putFiles (kept clean es) fs)) = HoldsFolder (kept clean es) := by
  funext a
  rcases under_again_cases clean es fs a with hsame | ⟨hfolder, -, c, hfile⟩
  · rw [holdsFolder_eq_under, hsame, ← holdsFolder_eq_under]
  · rw [hfolder, holdsFolder_eq_under, hfile]
    rfl

theorem isSome_last? (h : fs'.map Prod.fst = fs.map Prod.fst) (a : Text) :
    (last? a fs').isSome = (last? a fs).isSome := by
  have hany : ∀ gs : List (Text × Text),
      (last? a gs).isSome = (gs.map Prod.fst).any (FileName.stored · == a) := by
    intro gs
    rw [last?, List.isSome_find?, List.any_reverse, List.any_map]
    rfl
  rw [hany, hany, h]

/-- **The second time** nothing is different. -/
theorem get?_again (clean : Bool) (es : List (Text × Node)) (h : fs'.map Prod.fst = fs.map Prod.fst)
    (a : Text) :
    Ordered.get? a (putFiles (kept clean (putFiles (kept clean es) fs)) fs')
      = Ordered.get? a (putFiles (kept clean es) fs') := by
  have hsome := isSome_last? h a
  rw [Ordered.get?_eq_under, Ordered.get?_eq_under, under_putFiles, under_putFiles,
    holdsFolder_again]
  rcases under_again_cases clean es fs a with hsame | ⟨hfolder, hlast, c, hfile⟩
  · rw [hsame]
  · rw [hlast] at hsome
    obtain ⟨f, hf⟩ := Option.isSome_iff_exists.1 hsome
    rw [hfolder, hf, hfile]
    rfl

end Export

end ValidatorGen
