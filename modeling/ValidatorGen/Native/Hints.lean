import ValidatorGen.Ordered
import ValidatorGen.Text.CodePoint
import ValidatorGen.Text.Whole

/-!
# Hints on column types

For each model the column types of its fields, as they stand in the schema source.  A model
without a hint is not listed.
-/

namespace ValidatorGen.Native

/-- Column types by field, of one model. -/
abbrev FieldHints := List (Text × Text)

/-- Column types by model and field. -/
structure Hints where
  models : List (Text × FieldHints)
  deriving DecidableEq, Repr

namespace Hints

def empty : Hints := ⟨[]⟩

/-- Leaves out the models without a hint. -/
def ofModels (ms : List (Text × FieldHints)) : Hints := ⟨ms.filter (!·.2.isEmpty)⟩

/-- The hints of one model, none if it is not listed. -/
def forModel (h : Hints) (model : Text) : FieldHints := (Ordered.get? model h.models).getD []

/-- The hint for one field. -/
def get? (h : Hints) (model field : Text) : Option Text :=
  Ordered.get? field (h.forModel model)

def contains (h : Hints) (model : Text) : Bool := (Ordered.get? model h.models).isSome

def size (h : Hints) : Nat := h.models.length

def names (h : Hints) : List Text := Ordered.keys h.models

/-- One line on the number of models and fields. -/
def describe (h : Hints) : Text :=
  "<NativeTypeMap " ++ Text.decimal h.size ++ " models, "
    ++ Text.decimal (h.models.foldr (fun m n => m.2.length + n) 0) ++ " fields>"

/-- The same hints, whatever their order. -/
def same (h g : Hints) : Bool :=
  h.size == g.size && h.models.all fun (m, fs) =>
    match Ordered.get? m g.models with
    | none => false
    | some gs => fs.length == gs.length && fs.all fun (f, t) => Ordered.get? f gs == some t

end Hints

end ValidatorGen.Native
