import ValidatorGen.Emit.Modules
import ValidatorGen.Proofs.Script.Literal
import ValidatorGen.Proofs.Text

/-!
# Reading exports

A text of statements `export * from '…'`, one on each line, exports what the modules that it names
export, and nothing else.

* `exports?_exportLines` — the modules that such statements are written for are read again, unless
  one of them holds the end of a line; nothing is read then.
-/

namespace ValidatorGen.Script

open Emitter

/-- The module that a line exports again. -/
def exported? (line : Text) : Option Text :=
  ((Text.dropStart? "export * from " line).bind literal?).bind fun x =>
    if x.2 = [] then some x.1 else none

/-- The modules that a text exports again, one on each line that is not empty; none if it does
anything else. -/
def exports? (s : Text) : Option (List Text) :=
  ((Text.splitOn '\n' s).filter (!·.isEmpty)).mapM exported?

/-- The file of a module that is named from beside it. -/
def fileOf? (module : Text) : Option Text := (Text.dropStart? "./" module).map (· ++ ".ts")

/-- Statements that export all of some modules. -/
def exportLines (modules : List Text) : Text := modules.flatMap fun t => exportAll t ++ "\n"

/-! ## Lines -/

theorem exports?_of_splitOn {s l : Text} {ls : List Text} (h : Text.splitOn '\n' s = l :: ls)
    (h0 : l ≠ []) :
    exports? s = (exported? l).bind fun t =>
      ((ls.filter (!·.isEmpty)).mapM exported?).map (t :: ·) := by
  have hl : (!l.isEmpty) = true := by simpa using h0
  unfold exports?
  rw [h, List.filter_cons_of_pos (p := fun l : Text => !l.isEmpty) hl, List.mapM_cons]
  cases exported? l with
  | none => rfl
  | some t => cases (ls.filter fun l => !l.isEmpty).mapM exported? <;> rfl

/-! ## One statement -/

/-- What stands in front of the module's name. -/
def opening : Text := "export * from '"

theorem opening_ne_nil : opening ≠ [] := by decide

theorem exportAll_eq (t : Text) : exportAll t = opening ++ (Text.escapeFor '\'' t ++ "'") := by
  unfold exportAll Text.quoteSingle
  simp only [← List.append_assoc]
  rfl

theorem exported?_opening (s : Text) :
    exported? (opening ++ s) =
      (literal? (.char '\'' :: s)).bind fun x => if x.2 = [] then some x.1 else none := by
  have h : Text.dropStart? "export * from " (opening ++ s) = some (.char '\'' :: s) :=
    Text.dropStart?_eq_some.2 rfl
  unfold exported?
  rw [h]
  rfl

theorem mem_escapeFor {q c : CodePoint} {s : Text} (h : c ∈ Text.escapeFor q s) :
    c = '\\' ∨ c ∈ s := by
  obtain ⟨a, ha, hc⟩ := List.mem_flatMap.1 h
  unfold Text.escapeOne at hc
  split_ifs at hc <;> simp at hc <;> grind

theorem not_mem_escapeFor {q : CodePoint} {s : Text} (h : s.any endsLine = false) :
    .char '\n' ∉ Text.escapeFor q s := by
  intro hm
  rcases mem_escapeFor hm with he | hm
  · exact absurd he (by decide)
  · exact absurd (List.any_eq_false.1 h _ hm) (by decide)

theorem not_mem_opening_append {s : Text} (h : .char '\n' ∉ s) : .char '\n' ∉ opening ++ s := by
  intro hm
  rcases List.mem_append.1 hm with hm | hm
  · exact absurd hm (by decide)
  · exact h hm

theorem exports?_exportAll {t : Text} (h : t.any endsLine = false) (r : Text) :
    exports? (exportAll t ++ "\n" ++ r) = (exports? r).map (t :: ·) := by
  have hq : .char '\n' ∉ Text.escapeFor '\'' t ++ "'" := by
    intro hm
    rcases List.mem_append.1 hm with hm | hm
    · exact not_mem_escapeFor h hm
    · exact absurd hm (by decide)
  have hread : exported? (exportAll t) = some t := by
    have hlit : literal? (.char '\'' :: (Text.escapeFor '\'' t ++ "'")) = some (t, []) :=
      literal?_quoted (.inl rfl) h []
    rw [exportAll_eq, exported?_opening, hlit]
    rfl
  have hsplit : Text.splitOn '\n' (exportAll t ++ "\n" ++ r)
      = (exportAll t ++ []) :: Text.splitOn '\n' r := by
    rw [List.append_assoc]
    refine Text.splitOn_append (exportAll_eq t ▸ not_mem_opening_append hq) ?_
    show Text.splitOn '\n' ('\n' :: r) = _
    rw [Text.splitOn, if_pos rfl]
  have hne : exportAll t ++ [] ≠ [] := by
    rw [exportAll_eq, List.append_assoc]
    exact List.append_ne_nil_of_left_ne_nil opening_ne_nil _
  rw [exports?_of_splitOn hsplit hne, List.append_nil, hread]
  rfl

/-- The literal of a module that holds the end of a line is not read. -/
theorem exports?_exportAll_eq_none {t : Text} (h : t.any endsLine = true) (r : Text) :
    exports? (exportAll t ++ r) = none := by
  obtain ⟨x, hx⟩ := Option.isSome_iff_exists.1 (List.find?_isSome.2 (by simpa using h))
  obtain ⟨hend, u, v, rfl, hu⟩ := List.find?_eq_some_iff_append.1 hx
  have hu' : u.any endsLine = false := List.any_eq_false.2 (by simpa using hu)
  obtain ⟨w, hw⟩ : ∃ w, exportAll (u ++ x :: v) ++ r
      = (opening ++ Text.escapeFor '\'' u) ++ x :: w := by
    have he : Text.escapeFor '\'' (x :: v) = x :: Text.escapeFor '\'' v := by
      have h1 : ¬ (x = '\\' ∨ x = '\'') := by
        rintro (rfl | rfl) <;> exact absurd hend (by decide)
      rw [Text.escapeFor_cons, Text.escapeOne, if_neg h1]
      rfl
    refine ⟨Text.escapeFor '\'' v ++ "'" ++ r, ?_⟩
    rw [exportAll_eq, Text.escapeFor_append, he]
    simp only [List.append_assoc, List.cons_append]
  obtain ⟨p, ps, hp, hpre⟩ := Text.exists_splitOn '\n' (x :: w)
  have hsplit := Text.splitOn_append (not_mem_opening_append (not_mem_escapeFor (q := '\'') hu')) hp
  have hne : opening ++ Text.escapeFor '\'' u ++ p ≠ [] := by
    rw [List.append_assoc]
    exact List.append_ne_nil_of_left_ne_nil opening_ne_nil _
  rw [hw, exports?_of_splitOn hsplit hne, List.append_assoc, exported?_opening,
    literal?_eq_none (.inl rfl) hu']
  · rfl
  · cases p with
    | nil => exact .inl rfl
    | cons c p =>
      obtain ⟨rfl, -⟩ := List.cons_prefix_cons.1 hpre
      exact .inr ⟨c, p, rfl, hend⟩

/-! ## All statements -/

theorem exports?_exportLines (ts : List Text) :
    exports? (exportLines ts) = if ts.all (!·.any endsLine) then some ts else none := by
  induction ts with
  | nil => rfl
  | cons t ts ih =>
    have hcons : exportLines (t :: ts) = exportAll t ++ "\n" ++ exportLines ts := rfl
    rw [hcons, List.all_cons]
    cases ht : t.any endsLine with
    | false =>
      rw [exports?_exportAll ht, ih]
      simp only [Bool.not_false, Bool.true_and]
      split_ifs <;> rfl
    | true =>
      rw [List.append_assoc, exports?_exportAll_eq_none ht]
      rfl

end ValidatorGen.Script
