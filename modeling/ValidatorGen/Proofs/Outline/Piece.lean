import Mathlib.Data.List.Basic
import ValidatorGen.Emit.Modules

/-!
# Outlines

An outline is a generated text that still knows which of its names bind something and which refer
to something.  Everything else in it is mere text: keywords and signs, names of properties, comments,
and what the documentation brings in.
-/

namespace ValidatorGen.Outline

/-- When a reference is followed: when its module is loaded, later, or never, because it stands in a
type. -/
inductive Use
  | eager
  | deferred
  | type
  deriving DecidableEq, Repr

/-- What a declaration declares. -/
inductive Kind
  | const
  | type
  | interface
  deriving DecidableEq, Repr

def Kind.word : Kind → Text
  | const => "const"
  | type => "type"
  | interface => "interface"

inductive Piece
  | text (s : Text)
  /-- A statement that imports a whole module under one name. -/
  | importsAll (name module : Text)
  /-- A statement that imports names from a module. -/
  | imports (names : List Text) (module : Text)
  /-- The head of a declaration. -/
  | declares (exported : Bool) (kind : Kind) (name : Text)
  | refers (use : Use) (name : Text)
  deriving DecidableEq, Repr

namespace Piece

def render : Piece → Text
  | text s => s
  | importsAll name module => Emit.namespaceImport name module
  | imports names module => Emit.namedImport false names module
  | declares exported kind name => (if exported then "export " else "") ++ kind.word ++ " " ++ name
  | refers _ name => name

/-- The names that a piece binds. -/
def bound : Piece → List Text
  | importsAll name _ => [name]
  | imports names _ => names.eraseDups
  | declares _ _ name => [name]
  | _ => []

/-- What a piece refers to and when, if it does. -/
def use? : Piece → Option (Use × Text)
  | refers use name => some (use, name)
  | _ => none

/-- What a piece exports, if it does. -/
def exported? : Piece → Option (Kind × Text)
  | declares true kind name => some (kind, name)
  | _ => none

/-- A module and the name that stands for all of it, if a piece imports it so. -/
def importedAll? : Piece → Option (Text × Text)
  | importsAll name module => some (module, name)
  | _ => none

/-- A module and what a piece imports from it, if it does. -/
def imported? : Piece → Option (Text × List Text)
  | imports names module => some (module, names)
  | _ => none

end Piece

/-- A line of a generated text. -/
abbrev Line := List Piece

/-- A generated module: its sections, each with its lines. -/
abbrev Module := List (List Line)

namespace Line

def render (l : Line) : Text := l.flatMap Piece.render

theorem render_nil : render [] = [] := rfl

theorem render_cons (p : Piece) (l : Line) : render (p :: l) = p.render ++ render l := rfl

theorem render_singleton (p : Piece) : render [p] = p.render := List.append_nil _

theorem render_append (l k : Line) : render (l ++ k) = render l ++ render k := List.flatMap_append

/-- A line without a reference. -/
def plain (s : Text) : Line := [.text s]

end Line

theorem ofString_append (s t : String) :
    Text.ofString (s ++ t) = Text.ofString s ++ Text.ofString t := by
  simp [Text.ofString, Text.ofChars]

/-- The text of some lines. -/
def renderLines (ls : List Line) : List Text := ls.map Line.render

theorem renderLines_append (ls ks : List Line) :
    renderLines (ls ++ ks) = renderLines ls ++ renderLines ks := List.map_append

theorem renderLines_plain (ss : List Text) : renderLines (ss.map Line.plain) = ss := by
  unfold renderLines
  rw [List.map_map]
  exact (List.map_congr_left fun s _ => Line.render_singleton (.text s)).trans (List.map_id ss)

theorem renderLines_flatMap {α : Type} (xs : List α) (f : α → List Line) :
    renderLines (xs.flatMap f) = xs.flatMap fun x => renderLines (f x) := List.map_flatMap

/-- The usual indentation. -/
def indent (ls : List Line) : List Line :=
  ls.map fun l => if Text.isBlankText l.render then l else .text "  " :: l

theorem renderLines_indent (ls : List Line) :
    renderLines (indent ls) = Emit.indent (renderLines ls) := by
  unfold indent renderLines Emit.indent Emit.indentLines
  rw [List.map_map, List.map_map]
  refine List.map_congr_left fun l _ => ?_
  show Line.render (if _ then _ else _) = if Text.isBlankText l.render then _ else _
  split_ifs <;> rfl

/-! ## Readings -/

section

variable {α : Type} {f : Piece → Option α}

/-- What a reading of the pieces finds in lines. -/
def collect (f : Piece → Option α) (ls : List Line) : List α := ls.flatten.filterMap f

theorem mem_collect {ls : List Line} {x : α} :
    x ∈ collect f ls ↔ ∃ l ∈ ls, ∃ p ∈ l, f p = some x := by
  constructor
  · intro h
    obtain ⟨p, hp, hx⟩ := List.mem_filterMap.1 h
    obtain ⟨l, hl, hp⟩ := List.mem_flatten.1 hp
    exact ⟨l, hl, p, hp, hx⟩
  · rintro ⟨l, hl, p, hp, hx⟩
    exact List.mem_filterMap.2 ⟨p, List.mem_flatten.2 ⟨l, hl, hp⟩, hx⟩

theorem collect_eq_nil {ls : List Line} (h : ∀ l ∈ ls, ∀ p ∈ l, f p = none) :
    collect f ls = [] := by
  refine List.eq_nil_iff_forall_not_mem.2 fun x hx => ?_
  obtain ⟨l, hl, p, hp, hx⟩ := mem_collect.1 hx
  exact absurd (hx.symm.trans (h l hl p hp)) (by simp)

theorem collect_append (f : Piece → Option α) (ls ks : List Line) :
    collect f (ls ++ ks) = collect f ls ++ collect f ks := by
  simp [collect]

theorem collect_plain (hf : ∀ s, f (.text s) = none) (ss : List Text) :
    collect f (ss.map Line.plain) = [] := by
  refine collect_eq_nil fun l hl p hp => ?_
  obtain ⟨s, -, rfl⟩ := List.mem_map.1 hl
  rw [List.mem_singleton.1 hp, hf]

/-- Indentation is mere text. -/
theorem collect_indent (hf : ∀ s, f (.text s) = none) (ls : List Line) :
    collect f (indent ls) = collect f ls := by
  unfold collect indent
  induction ls with
  | nil => rfl
  | cons l ls ih =>
    rw [List.map_cons, List.flatten_cons, List.flatten_cons, List.filterMap_append,
      List.filterMap_append, ih]
    split_ifs
    · rfl
    · rw [List.filterMap_cons_none (hf _)]

end

/-! ## Names -/

/-- The names that lines bind. -/
def boundIn (ls : List Line) : List Text := ls.flatten.flatMap Piece.bound

/-- What lines refer to and when. -/
def usesIn (ls : List Line) : List (Use × Text) := collect Piece.use? ls

/-- What lines import, by module. -/
def importedIn (ls : List Line) : Emit.Imports := collect Piece.imported? ls

/-- What lines export. -/
def exportedIn (ls : List Line) : List (Kind × Text) := collect Piece.exported? ls

theorem mem_boundIn {ls : List Line} {x : Text} :
    x ∈ boundIn ls ↔ ∃ l ∈ ls, ∃ p ∈ l, x ∈ p.bound := by
  constructor
  · intro h
    obtain ⟨p, hp, hx⟩ := List.mem_flatMap.1 h
    obtain ⟨l, hl, hp⟩ := List.mem_flatten.1 hp
    exact ⟨l, hl, p, hp, hx⟩
  · rintro ⟨l, hl, p, hp, hx⟩
    exact List.mem_flatMap.2 ⟨p, List.mem_flatten.2 ⟨l, hl, hp⟩, hx⟩

theorem boundIn_append (ls ks : List Line) : boundIn (ls ++ ks) = boundIn ls ++ boundIn ks := by
  simp [boundIn]

theorem boundIn_eq_nil {ls : List Line} (h : ∀ l ∈ ls, ∀ p ∈ l, p.bound = []) :
    boundIn ls = [] := by
  refine List.eq_nil_iff_forall_not_mem.2 fun x hx => ?_
  obtain ⟨l, hl, p, hp, hx⟩ := mem_boundIn.1 hx
  rw [h l hl p hp] at hx
  exact List.not_mem_nil hx

theorem boundIn_plain (ss : List Text) : boundIn (ss.map Line.plain) = [] := by
  refine boundIn_eq_nil fun l hl p hp => ?_
  obtain ⟨s, -, rfl⟩ := List.mem_map.1 hl
  rw [List.mem_singleton.1 hp]
  rfl

theorem boundIn_indent (ls : List Line) : boundIn (indent ls) = boundIn ls := by
  unfold boundIn indent
  induction ls with
  | nil => rfl
  | cons l ls ih =>
    rw [List.map_cons, List.flatten_cons, List.flatten_cons, List.flatMap_append,
      List.flatMap_append, ih]
    split_ifs <;> rfl

namespace Module

/-- The text of a module, by sections. -/
def render (o : Module) : List (List Text) := o.map renderLines

/-- The names that a module binds, by its imports and by its declarations. -/
def bound (o : Module) : List Text := o.flatMap boundIn

/-- What a module refers to and when. -/
def uses (o : Module) : List (Use × Text) := o.flatMap usesIn

/-- What a module exports. -/
def exported (o : Module) : List (Kind × Text) := o.flatMap exportedIn

/-- The names that a module imports from another one. -/
def importedFrom (module : Text) (o : Module) : List Text :=
  ((o.flatMap importedIn).filter (·.1 = module)).flatMap (·.2)

/-- The names that come from another module, one by one or for all of it. -/
def takenFrom (module : Text) (o : Module) : List Text :=
  ((o.flatMap (collect Piece.importedAll?)).filter (·.1 = module)).map (·.2)
    ++ o.importedFrom module

theorem mem_importedFrom {o : Module} {s x : Text} :
    x ∈ o.importedFrom s ↔ ∃ names, (s, names) ∈ o.flatMap importedIn ∧ x ∈ names := by
  unfold importedFrom
  rw [List.mem_flatMap]
  constructor
  · rintro ⟨⟨module, names⟩, hi, hx⟩
    obtain ⟨hi, hs⟩ := List.mem_filter.1 hi
    exact ⟨names, of_decide_eq_true hs ▸ hi, hx⟩
  · rintro ⟨names, hi, hx⟩
    exact ⟨(s, names), List.mem_filter.2 ⟨hi, decide_eq_true rfl⟩, hx⟩

end Module

end ValidatorGen.Outline
