import ValidatorGen.Proofs.Compile.Order
import ValidatorGen.Proofs.Text

/-!
# The elements of a list

A modifier in front of `array()` applies to the elements of a list, and one behind it to the list
itself.

* `modifiers_of_isList` — the chain of a list, cut at its `array()`;
* `onElements_compileField` — neither the documentation nor a default adds anything to the elements;
* `documented_on_list` — so what the documentation appends applies to the list, unless the type of
  the field asks for the same by itself.
-/

namespace ValidatorGen.Compile

open Expression

/-! ## Cutting a chain at `array()` -/

/-- The modifiers in front of the first `array()`. -/
def onElements (ms : List Text) : List Text := ms.takeWhile (· ≠ array)

/-- The modifiers behind the first `array()`. -/
def onList (ms : List Text) : List Text := (ms.dropWhile (· ≠ array)).tail

section

variable {s : List Text} (hs : array ∉ s) (t : List Text)

include hs

theorem onElements_append : onElements (s ++ array :: t) = s := by
  refine takeWhile_append_stop (fun x hx => ?_) (fun x hx => ?_)
  · exact decide_eq_true fun h => hs (h ▸ hx)
  · obtain rfl : array = x := Option.some.inj hx
    rfl

theorem onList_append : onList (s ++ array :: t) = t := by
  unfold onList
  rw [dropWhile_append_stop (fun x hx => ?_) (fun x hx => ?_), List.tail_cons]
  · exact decide_eq_true fun h => hs (h ▸ hx)
  · obtain rfl : array = x := Option.some.inj hx
    rfl

end

/-! ## The chain of a list -/

section

variable {f : Field} (hl : f.isList = true) (native? : Option Text) (ds : List Directive)
  (default? : Option Literal) (c : Config) (related : Text → Text)

theorem array_not_mem_draft : array ∉ (draft f native? c related).tokens :=
  not_mem_draft (by decide)

include hl

/-- In front of `array()` stands what the type of the field asks for, and behind it what else is
new. -/
theorem modifiers_of_isList :
    (compileField f native? ds default? c related).modifiers =
      distinct (draft f native? c related).tokens ++ array ::
        distinct ((Directive.modifiers ds ++ ((defaultToken? default?).toList
          ++ if !f.isRequired && !f.hasType .json then [nullish] else [])).removeAll
            (array :: (draft f native? c related).tokens)) := by
  have hlead : leadingTokens f native? c related
      = (draft f native? c related).tokens ++ [array] := by
    unfold leadingTokens
    rw [if_pos hl]
  rw [modifiers_compileField, hlead, List.append_assoc, List.singleton_append]
  exact distinct_append_cons (array_not_mem_draft native? c related) (List.cons_ne_nil _ _) _

theorem onElements_compileField :
    onElements (compileField f native? ds default? c related).modifiers
      = distinct (draft f native? c related).tokens := by
  rw [modifiers_of_isList hl]
  exact onElements_append
    (fun h => array_not_mem_draft native? c related (mem_distinct.1 h).1) _

theorem mem_onList_of_mem_modifiers {m : Text} (hm : m ∈ Directive.modifiers ds) (hm0 : m ≠ [])
    (harray : m ≠ array) (hown : m ∉ (draft f native? c related).tokens) :
    m ∈ onList (compileField f native? ds default? c related).modifiers := by
  rw [modifiers_of_isList hl, onList_append
    (fun h => array_not_mem_draft native? c related (mem_distinct.1 h).1)]
  refine mem_distinct.2 ⟨mem_removeAll.2 ⟨List.mem_append_left _ hm, fun h => ?_⟩, hm0⟩
  exact (List.mem_cons.1 h).elim harray hown

end

/-- **What the documentation of a list applies to.**  In front of the `array()` of a list stand the
modifiers that it has there without documentation and default, all of them asked for by the type of
the field.  A modifier of the documentation stands behind `array()`, unless it is one of these. -/
theorem documented_on_list (f : Field) (hl : f.isList = true) (native? : Option Text)
    (ds : List Directive) (default? : Option Literal) (c : Config) (related : Text → Text) :
    let ms := (compileField f native? ds default? c related).modifiers
    let own := onElements (compileField f native? [] none c related).modifiers
    ms.Nodup ∧ ms = own ++ array :: onList ms ∧ (∀ m ∈ own, IsRefinement m) ∧
      ∀ m ∈ Directive.modifiers ds, m ≠ [] → m ≠ array → (m ∈ onList ms ↔ m ∉ own) := by
  intro ms own
  have hown : own = distinct (draft f native? c related).tokens :=
    onElements_compileField hl native? [] none c related
  have hcut : ms = own ++ array :: onList ms := by
    have harray : array ∉ own := fun h =>
      array_not_mem_draft native? c related (mem_distinct.1 (hown ▸ h)).1
    have hms : ms = own ++ array :: _ :=
      hown ▸ modifiers_of_isList hl native? ds default? c related
    rw [hms, onList_append harray]
  have hnodup : ms.Nodup := nodup_distinct _
  refine ⟨hnodup, hcut, fun m hm => ?_, fun m hm hm0 harray => ⟨fun h h' => ?_, fun h => ?_⟩⟩
  · exact isRefinement_of_mem_draft (mem_distinct.1 (hown ▸ hm)).1
  · -- no modifier occurs twice, so none stands on both sides
    rw [hcut] at hnodup
    exact (List.nodup_append.1 hnodup).2.2 m h' m (List.mem_cons_of_mem _ h) rfl
  · refine mem_onList_of_mem_modifiers hl native? ds default? c related hm hm0 harray fun hd => h ?_
    rw [hown]
    exact mem_distinct.2 ⟨hd, hm0⟩

/-- A bound on the elements, and another one on the list. -/
theorem documented_on_list_tags :
    let f : Field := { name := "tags", type := "String", isList := true }
    let ds : List Directive := [.modifier "max(3)", .modifier "array()"]
    let ms := (compileField f (some "VarChar(20)") ds none {} id).modifiers
    f.isList = true ∧ ("max(3)" : Text) ∈ Directive.modifiers ds ∧
      onElements (compileField f (some "VarChar(20)") [] none {} id).modifiers
        = [("max(20)" : Text)] ∧
      ("max(3)" : Text) ∈ onList ms := by
  intro f ds ms
  have hown : onElements (compileField f (some "VarChar(20)") [] none {} id).modifiers
      = [("max(20)" : Text)] := by decide +kernel
  obtain ⟨-, -, -, h⟩ := documented_on_list f rfl (some "VarChar(20)") ds none {} id
  refine ⟨rfl, by decide, hown, (h _ (by decide) (by decide) (by decide)).2 ?_⟩
  rw [hown]
  decide

/-- A bound of the documentation that is the one on the elements is met in front of `array()`. -/
theorem not_documented_on_list :
    let f : Field := { name := "tags", type := "String", isList := true }
    let ds : List Directive := [.modifier "max(20)"]
    let ms := (compileField f (some "VarChar(20)") ds none {} id).modifiers
    f.isList = true ∧ ("max(20)" : Text) ∈ Directive.modifiers ds ∧
      ms = (["max(20)", array] : List Text) ∧ ("max(20)" : Text) ∉ onList ms := by
  decide +kernel

end ValidatorGen.Compile
