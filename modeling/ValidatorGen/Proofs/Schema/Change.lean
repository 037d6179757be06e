import ValidatorGen.Proofs.Schema.Join

/-!
# Changing one line of a source

What the scan takes from a line depends on where it is: inside a block a line may end it or hold a
hint, outside of blocks it may open one.

* `ofLines_inside` — inside a block a line can be changed as long as it says the same;
* `ofLines_outside` — outside of blocks, as long as it opens the same block;
* `ofSource_line` — a line of a source has its place between the lines around it.
-/

namespace ValidatorGen.Native

variable {before after : List Text} {l l' : Text}

/-! ## Lines -/

/-- The block that a line opens, and whether it also ends there. -/
def opened? (l : Text) : Option (Text × Bool) :=
  (header? l).map fun h => (h.1, (stripComment h.2).contains '}')

theorem blocks_cons_congr (h : opened? l = opened? l') (ls : List Text) :
    blocks (l :: ls) = blocks (l' :: ls) := by
  unfold opened? at h
  cases hl : header? l with
  | none =>
    rw [hl] at h
    have hl' : header? l' = none := Option.map_eq_none_iff.1 h.symm
    rw [blocks_cons_of_none hl, blocks_cons_of_none hl']
  | some x =>
    rw [hl] at h
    obtain ⟨x', hl', heq⟩ := Option.map_eq_some_iff.1 h.symm
    obtain ⟨hname, hends⟩ := Prod.mk.inj heq
    rw [blocks, blocks, hl, hl']
    simp only [hname, hends]

/-- Blocks whose lines hold the same hints are collected alike. -/
theorem foldl_addBlock_congr {body body' : List Text}
    (h : body.filterMap hint? = body'.filterMap hint?) (name : Text) (front back : List Block) :
    (front ++ ⟨name, body⟩ :: back).foldl addBlock []
      = (front ++ ⟨name, body'⟩ :: back).foldl addBlock [] := by
  have hhints : blockHints ⟨name, body⟩ = blockHints ⟨name, body'⟩ := congrArg Ordered.ofList h
  have hadd : ∀ ms, addBlock ms ⟨name, body⟩ = addBlock ms ⟨name, body'⟩ := fun ms => by
    rw [addBlock, addBlock, hhints]
  rw [List.foldl_append, List.foldl_append, List.foldl_cons, List.foldl_cons, hadd]

/-- Inside a block, lines that end it alike and hold the same hint are read alike. -/
theorem ofLines_inside (h : endsInside before = true) (hcloses : closesBlock l = closesBlock l')
    (hhint : hint? l = hint? l') (after : List Text) :
    Hints.ofLines (before ++ l :: after) = Hints.ofLines (before ++ l' :: after) := by
  obtain ⟨bs, b, -, hblocks⟩ := blocks_append_of_inside h
  unfold Hints.ofLines
  rw [hblocks, hblocks]
  cases hl : closesBlock l with
  | true =>
    have hl' : closesBlock l' = true := hcloses.symm.trans hl
    simp only [List.takeWhile_cons, List.dropWhile_cons, hl, hl', Bool.not_true,
      Bool.false_eq_true, if_false, List.tail_cons]
  | false =>
    have hl' : closesBlock l' = false := hcloses.symm.trans hl
    simp only [List.takeWhile_cons, List.dropWhile_cons, hl, hl', Bool.not_false, if_true]
    refine congrArg Hints.ofModels (foldl_addBlock_congr ?_ b.name bs _)
    simp only [List.filterMap_append, List.filterMap_cons, hhint]

/-- Outside of blocks, lines that open the same block are read alike. -/
theorem ofLines_outside (h : endsInside before = false) (hopened : opened? l = opened? l')
    (after : List Text) :
    Hints.ofLines (before ++ l :: after) = Hints.ofLines (before ++ l' :: after) := by
  rw [Hints.ofLines, Hints.ofLines, blocks_append h, blocks_append h, blocks_cons_congr hopened]

/-- A line that is empty says nothing. -/
theorem ofLines_empty (before after : List Text) :
    Hints.ofLines (before ++ [] :: after) = Hints.ofLines (before ++ after) := by
  cases h : endsInside before with
  | false =>
    rw [Hints.ofLines, Hints.ofLines, blocks_append h, blocks_append h,
      blocks_cons_of_none (by decide)]
  | true =>
    obtain ⟨bs, b, -, hblocks⟩ := blocks_append_of_inside h
    have hopen : (!closesBlock []) = true := by decide
    unfold Hints.ofLines
    rw [hblocks, hblocks]
    simp only [List.takeWhile_cons, List.dropWhile_cons, hopen, if_true]
    have hnone : hint? [] = none := by decide
    refine congrArg Hints.ofModels (foldl_addBlock_congr ?_ b.name bs _)
    simp only [List.filterMap_append, List.filterMap_cons, hnone]

/-- A line of a source stands between the lines in front of it and behind it. -/
theorem ofSource_line {front line back : Text} (h : Text.IsLine front line back) :
    Hints.ofSource (front ++ line ++ back)
      = Hints.ofLines (Text.lines front ++ line :: Text.linesBehind back) := by
  by_cases hline : line = []
  · subst hline
    rw [List.append_nil, Hints.ofSource]
    rcases h.lines_nil with hlines | hlines
    · rw [hlines]
    · rw [hlines, ofLines_empty]
  · rw [Hints.ofSource, h.lines_eq hline]

end ValidatorGen.Native
