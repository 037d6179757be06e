import ValidatorGen.Disk.Basic
import ValidatorGen.Proofs.Text

/-!
# Paths without a way back

A path that has been made absolute has no `..` in it, and stays as it is from then on.

* `IsStraight` — such a path, and `resolve_straight`, that resolving leads to one;
* `IsPlain` — a name that can be put behind it;
* `suffixOf_suffix`, `suffixOf_append` — a name ends in its suffix;
* `settle_append_relative` — the way from one place to another leads there.
-/

namespace ValidatorGen

namespace Path

theorem foldl_step_of_not_mem {parts : List Text} (h : up ∉ parts) (place : List Text) :
    parts.foldl step place = parts.reverse ++ place := by
  induction parts generalizing place with
  | nil => rfl
  | cons p ps ih =>
    rw [List.mem_cons, not_or] at h
    have hstep : step place p = p :: place := if_neg (Ne.symm h.1)
    rw [List.foldl_cons, hstep, ih h.2, List.reverse_cons, List.append_assoc]
    rfl

theorem settle_of_not_mem {parts : List Text} (h : up ∉ parts) : settle parts = parts := by
  rw [settle, foldl_step_of_not_mem h, List.append_nil, List.reverse_reverse]

/-! ## The way between two places -/

theorem mem_of_mem_settle {parts : List Text} {a : Text} (h : a ∈ settle parts) : a ∈ parts := by
  suffices hstep : ∀ place : List Text, a ∈ parts.foldl step place → a ∈ place ∨ a ∈ parts by
    exact (hstep [] (List.mem_reverse.1 h)).resolve_left List.not_mem_nil
  clear h
  induction parts with
  | nil => exact fun place h => .inl h
  | cons p ps ih =>
    intro place h
    rcases ih (step place p) h with h | h
    · unfold step at h
      split_ifs at h
      · exact .inl (List.mem_of_mem_tail h)
      · rcases List.mem_cons.1 h with rfl | h
        · exact .inr List.mem_cons_self
        · exact .inl h
    · exact .inr (List.mem_cons_of_mem p h)

/-- Each `..` takes one name off the place. -/
theorem foldl_step_replicate_up (n : Nat) (place : List Text) :
    (List.replicate n up).foldl step place = place.drop n := by
  induction n generalizing place with
  | zero => rfl
  | succ n ih =>
    have hstep : step place up = place.drop 1 := (if_pos rfl).trans List.drop_one.symm
    rw [List.replicate_succ, List.foldl_cons, hstep, ih, List.drop_drop, Nat.add_comm]

theorem exists_dropCommon (s t : List Text) :
    ∃ common, s = common ++ (dropCommon s t).1 ∧ t = common ++ (dropCommon s t).2 := by
  fun_induction dropCommon s t with
  | case1 s a t ih =>
    obtain ⟨common, hs, ht⟩ := ih
    exact ⟨a :: common, congrArg (a :: ·) hs, congrArg (a :: ·) ht⟩
  | case2 => exact ⟨[], rfl, rfl⟩
  | case3 => exact ⟨[], rfl, rfl⟩

/-- The way from one place to another leads there. -/
theorem settle_append_relative {target start : List Text} (htarget : up ∉ target)
    (hstart : up ∉ start) : settle (start ++ relative target start) = target := by
  obtain ⟨common, ht, hs⟩ := exists_dropCommon target start
  unfold relative
  set t := (dropCommon target start).1
  set s := (dropCommon target start).2
  have hrest : up ∉ t := fun h => htarget (ht ▸ List.mem_append_right common h)
  have hback : start.reverse.drop s.length = common.reverse := by
    rw [hs, List.reverse_append, ← List.length_reverse, List.drop_left]
  rw [settle, List.foldl_append, List.foldl_append, foldl_step_of_not_mem hstart, List.append_nil,
    foldl_step_replicate_up, hback, foldl_step_of_not_mem hrest, List.reverse_append,
    List.reverse_reverse, List.reverse_reverse, ← ht]

theorem mem_relative {target start : List Text} {a : Text} (h : a ∈ relative target start) :
    a = up ∨ a ∈ target := by
  obtain ⟨common, ht, -⟩ := exists_dropCommon target start
  rcases List.mem_append.1 h with h | h
  · exact .inl (List.eq_of_mem_replicate h)
  · exact .inr (ht ▸ List.mem_append_right common h)

/-- A path that starts at the root and never turns back. -/
structure IsStraight (p : Path) : Prop where
  slashes : p.slashes = 1
  up : Path.up ∉ p.parts

theorem IsStraight.absolutePath {p : Path} (h : p.IsStraight) (cwd : List Text) :
    p.absolutePath cwd = p := by
  have habs : p.isAbsolute = true := by simp [isAbsolute, h.slashes]
  rw [Path.absolutePath, absolute, habs, if_pos rfl, settle_of_not_mem h.up, ← h.slashes]

theorem IsStraight.child {p : Path} (h : p.IsStraight) {a : Text} (ha : a ≠ Path.up) :
    (p.child a).IsStraight where
  slashes := h.slashes
  up hm := by
    rcases List.mem_append.1 hm with hm | hm
    · exact h.up hm
    · exact ha (List.mem_singleton.1 hm).symm

/-! ## What is in a folder -/

theorem parent_child (p : Path) (a : Text) : (p.child a).parent = p := by
  rw [parent, child, List.dropLast_concat]

theorem name_child (p : Path) (a : Text) : (p.child a).name = a := by
  rw [name, child, List.getLast?_concat]
  rfl

/-- The written form of what is in a folder starts with that of the folder. -/
theorem exists_text_child {p : Path} (h : p.slashes = 1) :
    ∃ t, ∀ a, (p.child a).text = p.text ++ t ++ a := by
  obtain ⟨slashes, parts⟩ := p
  subst h
  have htext : ∀ ps : List Text, (⟨1, ps⟩ : Path).text = "/" ++ Text.join "/" ps := fun ps => rfl
  have hconcat : ∀ b : Text, ∀ ps : List Text, ∀ a,
      Text.join "/" (b :: ps ++ [a]) = Text.join "/" (b :: ps) ++ ("/" ++ a) := by
    intro b ps
    induction ps generalizing b with
    | nil =>
      intro a
      rw [List.singleton_append, Text.join_cons_cons, Text.join_singleton, Text.join_singleton]
    | cons c ps ih =>
      intro a
      rw [List.cons_append, List.cons_append, Text.join_cons_cons, Text.join_cons_cons,
        ← List.cons_append, ih, List.append_assoc, List.append_assoc]
  cases parts with
  | nil =>
    refine ⟨[], fun a => ?_⟩
    rw [child, htext, htext, List.nil_append, Text.join_singleton, List.append_nil]
    rfl
  | cons b ps =>
    refine ⟨"/", fun a => ?_⟩
    rw [child, htext, htext, hconcat, ← List.append_assoc, ← List.append_assoc]

/-! ## Names -/

/-- A name ends in its suffix. -/
theorem suffixOf_suffix (name : Text) : suffixOf name <:+ name := by
  unfold suffixOf
  dsimp only
  split_ifs with h
  · have hdot : CodePoint.char '.' ∈ name.reverse := by
      simp only [Bool.and_eq_true, List.contains_eq_mem, decide_eq_true_eq] at h
      exact List.mem_reverse.2 h.1.1
    obtain ⟨as, bs, hsplit, has⟩ := List.eq_append_cons_of_mem hdot
    have htake : name.reverse.takeWhile (!·.is '.') = as := by
      rw [hsplit]
      refine takeWhile_append_stop (fun c hc => ?_) (fun c hc => ?_)
      · have hne : c ≠ .char '.' := fun heq => has (heq ▸ hc)
        simpa [CodePoint.is] using hne
      · cases hc
        rfl
    have hname := congrArg List.reverse hsplit
    rw [List.reverse_reverse, List.reverse_append, List.reverse_cons, List.append_assoc] at hname
    exact ⟨bs.reverse, by rw [htake, hname]; rfl⟩
  · exact List.nil_suffix

/-- A name that is one part of a path and no way back. -/
structure IsPlain (name : Text) : Prop where
  slash : CodePoint.char '/' ∉ name
  empty : name ≠ []
  here : name ≠ "."
  up : name ≠ Path.up

/-- What follows the last dot of a name is its suffix, if there is something on both sides of the
dot. -/
theorem suffixOf_append {stem extension : Text} (hstem : stem ≠ []) (hne : extension ≠ [])
    (hdot : CodePoint.char '.' ∉ extension) :
    suffixOf (stem ++ .char '.' :: extension) = .char '.' :: extension := by
  have hreverse : (stem ++ CodePoint.char '.' :: extension).reverse
      = extension.reverse ++ .char '.' :: stem.reverse := by
    simp
  have htake : (extension.reverse ++ CodePoint.char '.' :: stem.reverse).takeWhile (!·.is '.')
      = extension.reverse := by
    refine takeWhile_append_stop (fun c hc => ?_) (by rintro c ⟨⟩; rfl)
    have hc : c ≠ .char '.' := fun h => hdot (h ▸ List.mem_reverse.1 hc)
    simpa [CodePoint.is] using hc
  have hlength := List.length_pos_iff.2 hstem
  have hpos : 0 < stem.length + (extension.length + 1) - extension.length - 1 := by omega
  simp only [suffixOf, hreverse, htake, List.reverse_reverse, List.length_append, List.length_cons]
  rw [if_pos]
  simp [hne, hpos]

/-! ## Parts -/

/-- What a path can have as one of its parts: a name, or the way back. -/
structure IsPart (a : Text) : Prop where
  slash : CodePoint.char '/' ∉ a
  empty : a ≠ []
  here : a ≠ "."

theorem IsPlain.isPart {name : Text} (h : IsPlain name) : IsPart name := ⟨h.slash, h.empty, h.here⟩

theorem isPart_of_mem_parts {s a : Text} (h : a ∈ (ofText s).parts) : IsPart a := by
  obtain ⟨hmem, ha⟩ := List.mem_filter.1 h
  simp only [Bool.and_eq_true, Bool.not_eq_true', List.isEmpty_eq_false_iff, decide_eq_true_eq]
    at ha
  exact ⟨fun hc => (Text.of_mem_splitOn hmem hc).2 rfl, ha.1, ha.2⟩

/-- The parts of an absolute path, seen from a working directory that has parts. -/
theorem isPart_of_mem_absolute {cwd : List Text} (hcwd : ∀ a ∈ cwd, IsPart a) {s a : Text}
    (h : a ∈ (ofText s).absolute cwd) : IsPart a := by
  have hmem := mem_of_mem_settle h
  split_ifs at hmem
  · exact isPart_of_mem_parts hmem
  · exact (List.mem_append.1 hmem).elim (hcwd a) isPart_of_mem_parts

theorem IsPlain.ofText {name : Text} (h : IsPlain name) : ofText name = ⟨0, [name]⟩ := by
  have hleading : name.takeWhile (·.is '/') = [] := by
    cases name with
    | nil => rfl
    | cons c r =>
      have hc : c ≠ .char '/' := fun hc => h.slash (hc ▸ List.mem_cons_self)
      exact List.takeWhile_cons_of_neg (by simpa [CodePoint.is] using hc)
  have hparts : partsOf name = [name] := by
    rw [partsOf, Text.splitOn_of_not_mem h.slash]
    simp [h.empty, h.here]
  rw [Path.ofText, leading, hleading, hparts]
  rfl

theorem IsPlain.join_ofText {name : Text} (h : IsPlain name) (p : Path) :
    p.join (.ofText name) = p.child name := by
  rw [h.ofText]
  rfl

end Path

namespace Disk

variable {d : Disk} {p q : Path}

theorem resolve_eq (h : d.resolve p = .ok q) : q = p.absolutePath d.cwd := by
  unfold resolve at h
  split at h <;> cases h
  rfl

/-- What a path is resolved to starts with one slash and leads straight on. -/
theorem resolve_straight (h : d.resolve p = .ok q) : q.IsStraight := by
  rw [resolve_eq h]
  exact ⟨rfl, Path.not_mem_settle _⟩

theorem absolutePath_of_resolve (h : d.resolve p = .ok q) (cwd : List Text) :
    q.absolutePath cwd = q :=
  (resolve_straight h).absolutePath cwd

end Disk

end ValidatorGen
