import ValidatorGen.Documentation
import ValidatorGen.Proofs.Text

/-!
# Documentation line by line

Each line of a documentation is read by itself: it is a comment, or it carries a chain of calls.

* `isDirectiveLine_iff` — which lines carry a chain;
* `ofText_lineFeed` — what the documentation says on both sides of a line feed;
* `ofText_append_lineFeed` — so directives and comments are put together like the texts, as long as
  no line is opened between them.
-/

namespace ValidatorGen.Documentation

/-! ## Lines -/

/-- The line has the sentinel behind its blanks, and then a dot or nothing. -/
def CarriesChain (line : Text) : Prop :=
  Text.trimStart line = sentinel ∨ sentinel ++ [.char '.'] <+: Text.trimStart line

instance (line : Text) : Decidable (CarriesChain line) :=
  inferInstanceAs (Decidable (_ ∨ _))

theorem isDirectiveLine_iff {line : Text} : isDirectiveLine line = true ↔ CarriesChain line := by
  unfold isDirectiveLine chain? CarriesChain
  dsimp only
  generalize Text.trimStart line = s
  by_cases h : sentinel <+: s
  · obtain ⟨r, rfl⟩ := h
    rw [if_pos (List.isPrefixOf_iff_prefix.2 (List.prefix_append _ r)), List.drop_left,
      List.append_right_eq_self, List.prefix_append_right_inj]
    split
    · simp
    · simp
    · rename_i hnil hdot
      refine iff_of_false Bool.false_ne_true ?_
      rintro (rfl | ⟨t, rfl⟩)
      · exact hnil rfl
      · exact hdot t rfl
  · rw [if_neg fun hp => h (List.isPrefixOf_iff_prefix.1 hp)]
    have hne : s ≠ sentinel := by
      rintro rfl
      exact h List.prefix_rfl
    have hdot : ¬ sentinel ++ [.char '.'] <+: s := fun hp => h ((List.prefix_append _ _).trans hp)
    simp [hne, hdot]

/-- An empty line carries nothing. -/
theorem ofLines_emptyLine : ofLines [[]] = ⟨[], [[]]⟩ := by
  decide

theorem ofLines_append (ls ks : List Text) :
    ofLines (ls ++ ks) = ⟨(ofLines ls).directives ++ (ofLines ks).directives,
      (ofLines ls).comments ++ (ofLines ks).comments⟩ := by
  unfold ofLines
  rw [List.flatMap_append, List.filter_append]

/-! ## Texts -/

/-- What stands on both sides of a line feed is read apart; the line feed may add an empty line, and
an empty line is a comment. -/
theorem ofText_lineFeed (a b : Text) :
    ofText (a ++ "\n" ++ b) = ⟨(ofText a).directives ++ (ofText b).directives,
      (ofText a).comments
        ++ ((if Text.takesLineFeed a then [] else [[]]) ++ (ofText b).comments)⟩ := by
  have hlines : Text.lines (a ++ "\n" ++ b)
      = Text.lines a ++ ((if Text.takesLineFeed a then [] else [[]]) ++ Text.lines b) := by
    rw [List.append_assoc]
    exact Text.lines_append_lineFeed a b
  unfold ofText
  rw [hlines, ofLines_append, ofLines_append]
  split_ifs
  · rfl
  · rw [ofLines_emptyLine]
    rfl

/-- **Documentation is put together line by line.**  The directives of two texts with a line feed
between them are those of the one and then those of the other.  So are the comments, unless the
first text is empty or ends in a boundary that does not take the line feed in.  The comments of a
text are those of its lines that carry no chain. -/
theorem ofText_append_lineFeed (a b : Text) :
    let joined := ofText (a ++ "\n" ++ b)
    joined.directives = (ofText a).directives ++ (ofText b).directives ∧
      (joined.comments = (ofText a).comments ++ (ofText b).comments ↔
        ∃ c, a.getLast? = some c ∧ (Text.isBoundary c = false ∨ c = '\r')) ∧
      (ofText a).comments = (Text.lines a).filter fun l => ¬ CarriesChain l := by
  intro joined
  have hjoined : joined = _ := ofText_lineFeed a b
  refine ⟨by rw [hjoined], ?_, ?_⟩
  · rw [hjoined]
    have htakes : Text.takesLineFeed a = true ↔
        ∃ c, a.getLast? = some c ∧ (Text.isBoundary c = false ∨ c = '\r') := by
      simp [Text.takesLineFeed, Option.any_eq_true]
    rw [← htakes]
    cases Text.takesLineFeed a with
    | true => simp
    | false =>
      simp
  · refine List.filter_congr fun l _ => ?_
    have hl : isDirectiveLine l = decide (CarriesChain l) := by
      rw [Bool.eq_iff_iff, decide_eq_true_iff]
      exact isDirectiveLine_iff
    rw [hl, decide_not]

/-- A carriage return takes the line feed in, a form feed does not. -/
example : (ofText "Name\r\n@zod.max(9)").comments = [("Name" : Text)] ∧
    (ofText "Name\x0c\n@zod.max(9)").comments = [("Name" : Text), ""] := by
  decide +kernel

end ValidatorGen.Documentation
