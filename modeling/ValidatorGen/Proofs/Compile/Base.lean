import Mathlib.Tactic.Common
import ValidatorGen.Compile

/-!
# The bases of scalar fields

* `isScalarBase_draftScalar` — these are all, and `jsonSchema` is that of `Json` alone.
-/

namespace ValidatorGen.Compile

/-- What stands behind the namespace of a base that coercion applies to. -/
def coercibleBases : List Text :=
  [".string()", ".string().toLowerCase()", ".number()", ".bigint()", ".date()", ".boolean()"]

/-- A base that a scalar field can have by itself, other than that of `Json`. -/
inductive IsScalarBase (c : Config) : Text → Prop
  | coercible {rest : Text} (h : rest ∈ coercibleBases) : IsScalarBase c (namespaceOf c ++ rest)
  | dayOrTime {tag p : Text} (h : dayOrTimePattern? tag = some p) :
    IsScalarBase c (namespaceOf c ++ ".string()." ++ p)
  | uuid : IsScalarBase c "z.uuid()"
  | buffer : IsScalarBase c "z.instanceof(Buffer)"
  | unknown : IsScalarBase c unknown

theorem IsScalarBase.exists_cons {c : Config} {s : Text} (h : IsScalarBase c s) :
    ∃ rest, s = .char 'z' :: rest := by
  have hz : ∃ rest, namespaceOf c = .char 'z' :: rest := by
    unfold namespaceOf
    split_ifs <;> exact ⟨_, rfl⟩
  obtain ⟨rest, hz⟩ := hz
  cases h with
  | coercible _ => exact ⟨_, by rw [hz, List.cons_append]⟩
  | dayOrTime _ => exact ⟨_, by rw [hz, List.cons_append, List.cons_append]⟩
  | uuid => exact ⟨_, rfl⟩
  | buffer => exact ⟨_, rfl⟩
  | unknown => exact ⟨_, rfl⟩

/-! ## The types one by one -/

section

variable (c : Config) (tag? : Option Native.Tag)

theorem isScalarBase_draftString : IsScalarBase c (draftString (namespaceOf c) tag?).base := by
  cases tag? with
  | none => exact .coercible (by decide)
  | some tag =>
    unfold draftString
    dsimp only
    split_ifs
    · exact .uuid
    · exact .coercible (by decide)
    · exact .coercible (by decide)
    · exact .unknown
    · exact .coercible (by decide)
    · exact .coercible (by decide)

theorem isScalarBase_draftDateTime : IsScalarBase c (draftDateTime (namespaceOf c) tag?).base := by
  unfold draftDateTime
  split
  · rename_i p hp
    obtain ⟨tag, -, htag⟩ := Option.bind_eq_some_iff.1 hp
    exact .dayOrTime htag
  · exact .coercible (by decide)

theorem base_addMinLength (r : Bool) (d : Draft) : (addMinLength c r d).base = d.base := by
  unfold addMinLength
  split_ifs <;> rfl

end

theorem draftString_opaqueTags (z : Text) {t : Native.Tag} (h : t.name ∈ opaqueTags) :
    draftString z (some t) = ⟨unknown, [], false⟩ := by
  obtain ⟨name, params⟩ := t
  rcases List.mem_cons.1 h with h | h
  · cases h
    rfl
  · cases List.mem_singleton.1 h
    rfl

/-! ## All types -/

theorem hasType_of_ofName? {f : Field} {s : Scalar} (h : Scalar.ofName? f.type = some s) :
    f.hasType s = true := by
  have hs := List.find?_some (p := fun x : Scalar => x.name == f.type) h
  exact decide_eq_true (eq_of_beq hs).symm

theorem isScalarBase_draftScalar {f : Field} (hj : f.hasType .json = false)
    (native? : Option Text) (c : Config) : IsScalarBase c (draftScalar f native? c).base := by
  unfold draftScalar
  dsimp only
  split
  · rw [base_addMinLength]
    exact isScalarBase_draftString c _
  · exact .coercible (by decide)
  · exact .coercible (by decide)
  · exact .coercible (by decide)
  · exact .coercible (by decide)
  · exact isScalarBase_draftDateTime c _
  · exact .coercible (by decide)
  · exact .buffer
  · rename_i h
    exact absurd (hasType_of_ofName? h) (by simp [hj])
  · exact .unknown

theorem ofName?_of_hasType {f : Field} {s : Scalar} (h : f.hasType s = true) :
    Scalar.ofName? f.type = some s := by
  rw [of_decide_eq_true h]
  exact Scalar.ofName?_name s

theorem draftScalar_json {f : Field} (hj : f.hasType .json = true) (native? : Option Text)
    (c : Config) : draftScalar f native? c = ⟨"jsonSchema", [], false⟩ := by
  unfold draftScalar
  dsimp only
  rw [ofName?_of_hasType hj]

theorem draftScalar_string {f : Field} (hs : f.hasType .string = true) (native? : Option Text)
    (c : Config) : draftScalar f native? c
      = addMinLength c f.isRequired (draftString (namespaceOf c) (columnTag? native?)) := by
  unfold draftScalar
  dsimp only
  rw [ofName?_of_hasType hs]

end ValidatorGen.Compile
