import ValidatorGen.Proofs.Expression
import ValidatorGen.Proofs.Relation
import ValidatorGen.Proofs.Run.Outcome

/-!
# Settings without an effect

Three settings ask something of required strings.  Two of them may do nothing: blanks are trimmed
only if a minimum length is asked for, and an empty text stands for a missing one only if blanks
are trimmed as well.  The check warns of a setting that does nothing.

* `addMinLength_eq` — what the three settings do: they append `stringTokens`;
* `generate_askStrings`, `render_askStrings` — settings that append the same generate the same;
* `stringTokens_eq_of_modelModule_eq` — and only these do, as one field shows;
* `warns_iff_generatesAlike` — the check warns of exactly what could as well be turned off.
-/

namespace ValidatorGen

open Compile

/-! ## What is asked of strings -/

namespace Compile

/-- The modifiers that three settings append to a required string. -/
def askedTokens (minLength trim prefault : Bool) : List Text :=
  let first : List Text := if trim then ["trim()"] else []
  let last : List Text := if trim && prefault then ["prefault(\"\")"] else []
  if minLength then first ++ [("min(1)" : Text)] ++ last else []

def stringTokens (c : Config) : List Text :=
  askedTokens c.useMinLength c.useTrimStrings c.usePrefaultEmptyString

theorem addMinLength_eq (c : Config) (required : Bool) (d : Draft) :
    addMinLength c required d = if required && !d.special then
      { d with tokens := d.tokens ++ stringTokens c } else d := by
  unfold addMinLength stringTokens askedTokens
  cases c.useMinLength
  · simp
  · rfl

end Compile

/-- The same settings with others on strings. -/
def Config.askStrings (c : Config) (minLength trim prefault : Bool) : Config :=
  { c with
    useMinLength := minLength, useTrimStrings := trim, usePrefaultEmptyString := prefault }

/-- The same emitter with other settings on strings. -/
def Emitter.askStrings (e : Emitter) (minLength trim prefault : Bool) : Emitter :=
  { e with config := e.config.askStrings minLength trim prefault }

section

variable {c : Config} {minLength trim prefault : Bool}
  (h : stringTokens (c.askStrings minLength trim prefault) = stringTokens c)

include h

theorem draftScalar_askStrings (f : Field) (native? : Option Text) :
    draftScalar f native? (c.askStrings minLength trim prefault) = draftScalar f native? c := by
  unfold draftScalar
  dsimp only
  split
  · rw [addMinLength_eq, addMinLength_eq, h]
    rfl
  all_goals rfl

theorem compileField_askStrings (f : Field) (native? : Option Text) (ds : List Directive)
    (default? : Option Literal) (related : Text → Text) :
    compileField f native? ds default? (c.askStrings minLength trim prefault) related
      = compileField f native? ds default? c related := by
  have hdraft : draft f native? (c.askStrings minLength trim prefault) related
      = draft f native? c related := by
    unfold draft
    rw [draftScalar_askStrings h]
    rfl
  unfold compileField
  rw [hdraft]

end

/-! ## The same modules -/

namespace Emitter

section

variable {e : Emitter} {minLength trim prefault : Bool}
  (h : stringTokens (e.config.askStrings minLength trim prefault) = stringTokens e.config)

include h

theorem scalarSchema_askStrings (m : Model) :
    (e.askStrings minLength trim prefault).scalarSchema m = e.scalarSchema m := by
  have hfields : (e.askStrings minLength trim prefault).scalarExpression m.name
      = e.scalarExpression m.name := funext fun f => compileField_askStrings h ..
  unfold scalarSchema
  rw [hfields]
  rfl

theorem completeSchema_askStrings (m : Model) :
    (e.askStrings minLength trim prefault).completeSchema m = e.completeSchema m := by
  have hfields : (e.askStrings minLength trim prefault).relationExpression
      = e.relationExpression := funext fun f => compileField_askStrings h ..
  unfold completeSchema
  rw [hfields]
  rfl

theorem modelModule_askStrings (m : Model) :
    (e.askStrings minLength trim prefault).modelModule m = e.modelModule m := by
  unfold modelModule sections
  rw [scalarSchema_askStrings h, completeSchema_askStrings h]
  rfl

theorem generate_askStrings (d : DataModel) :
    (e.askStrings minLength trim prefault).generate d = e.generate d := by
  unfold generate allModules
  simp only [modelModule_askStrings h]
  rfl

theorem journal_askStrings (d : DataModel) :
    (e.askStrings minLength trim prefault).journal d = e.journal d := by
  unfold journal
  rw [generate_askStrings h]
  rfl

omit h in
theorem brokenJournal?_askStrings (e : Emitter) (ms : List Model) :
    (e.askStrings minLength trim prefault).brokenJournal? ms = e.brokenJournal? ms := by
  induction ms with
  | nil => rfl
  | cons m ms ih =>
    unfold brokenJournal?
    rw [ih]
    rfl

theorem emission_askStrings (d : DataModel) :
    (e.askStrings minLength trim prefault).emission d = e.emission d := by
  unfold emission
  rw [brokenJournal?_askStrings, generate_askStrings h, journal_askStrings h]

end

end Emitter

namespace Run

variable {c : Config} {minLength trim prefault : Bool}

theorem emitterOn_askStrings (d : Disk) (ms : List Model) (c : Config) (o : Options)
    (hints : Native.Hints) : emitterOn d ms (c.askStrings minLength trim prefault) o hints
      = (emitterOn d ms c o hints).map (·.askStrings minLength trim prefault) := by
  have hasked : Emitter.askedSource? (c.askStrings minLength trim prefault) o
      = Emitter.askedSource? c o := rfl
  unfold emitterOn
  rw [hasked]
  split
  · next p _ => cases d.isFolder p <;> rfl
  · rfl

theorem config_of_emitterOn {d : Disk} {ms : List Model} {o : Options} {hints : Native.Hints}
    {e : Emitter} (h : emitterOn d ms c o hints = .ok e) : e.config = c := by
  unfold emitterOn at h
  split at h
  · next p _ =>
    cases hp : d.isFolder p with
    | ok b =>
      rw [hp] at h
      cases h
      rfl
    | error f =>
      rw [hp] at h
      cases h
  · cases h
    rfl

theorem renderWith_askStrings
    (h : stringTokens (c.askStrings minLength trim prefault) = stringTokens c) (d : Disk)
    (m : DataModel) (o : Options) (hints : Native.Hints) (j : Journal) :
    renderWith d ⟨m, c.askStrings minLength trim prefault, o⟩ hints j
      = renderWith d ⟨m, c, o⟩ hints j := by
  unfold renderWith
  dsimp only
  rw [emitterOn_askStrings]
  cases he : emitterOn d m.models c o hints with
  | error f => rfl
  | ok e =>
    obtain rfl := config_of_emitterOn he
    dsimp only [Except.map]
    rw [Emitter.emission_askStrings h]

/-- What is generated on a disk is the same too, and so is what keeps it from being generated. -/
theorem render_askStrings
    (h : stringTokens (c.askStrings minLength trim prefault) = stringTokens c) (d : Disk)
    (m : DataModel) (o : Options) (given? : Option Native.Hints) :
    render d ⟨m, c.askStrings minLength trim prefault, o⟩ given? = render d ⟨m, c, o⟩ given? := by
  cases given? with
  | some hints =>
    rw [render_some, render_some]
    exact renderWith_askStrings h d m o hints []
  | none =>
    rw [render_none, render_none]
    cases Native.resolve d o.schemaPath? with
    | error f => rfl
    | ok x => exact renderWith_askStrings h d m o x.1 x.2

end Run

/-! ## A field that tells settings apart -/

namespace Probe

def field : Field := { name := "name", type := "String" }

def model : Model := { name := "User", fields := [field] }

def validator (c : Config) : Expression := .build (namespaceOf c ++ ".string()") (stringTokens c)

theorem scalarExpression_field {e : Emitter} (h : e.hints = .empty) :
    e.scalarExpression model.name field = validator e.config := by
  have hdraft : draft field none e.config id
      = ⟨namespaceOf e.config ++ ".string()", stringTokens e.config, false⟩ :=
    addMinLength_eq e.config true _
  unfold Emitter.scalarExpression
  rw [h]
  show Expression.build (draft field none e.config id).base
    ((draft field none e.config id).tokens ++ []) = _
  rw [hdraft, List.append_nil]
  rfl

theorem scalarSchema_model {e : Emitter} (h : e.hints = .empty) : e.scalarSchema model
    = ["export const " ++ e.config.modelSchemaName model.name ++ " = z.object(\x7b",
      "  " ++ field.name ++ ": " ++ (validator e.config).render ++ ",", "\x7d)"] := by
  have hproperty : Emit.indent (Emitter.property field (e.scalarExpression model.name field) ++ [])
      = ["  " ++ field.name ++ ": " ++ (validator e.config).render ++ ","] := by
    rw [List.append_nil, Emitter.indent_property, scalarExpression_field h]
    rfl
  unfold Emitter.scalarSchema
  exact congrArg ([_] ++ · ++ [_]) hproperty

theorem modelModule_model (e : Emitter) : e.modelModule model
    = Emitter.joinSections [e.importLines model, e.scalarSchema model] := by
  have hj : Emitter.usesJson model = false := by decide
  have hd : e.usesDecimal model = false := by
    unfold Emitter.usesDecimal
    cases e.config.useDecimalJs <;> decide
  have hc : e.needsComplete model = false := by
    unfold Emitter.needsComplete
    cases e.config.relationsEnabled <;> decide
  simp [Emitter.modelModule, Emitter.sections, Emitter.helpers, hj, hd, hc]

/-- Around the validator, its module does not depend on what is asked of strings. -/
theorem render_validator_eq {e : Emitter} (h : e.hints = .empty) {minLength trim prefault : Bool}
    (heq : (e.askStrings minLength trim prefault).modelModule model = e.modelModule model) :
    (validator (e.config.askStrings minLength trim prefault)).render
      = (validator e.config).render := by
  have h' : (e.askStrings minLength trim prefault).hints = .empty := h
  have himports : (e.askStrings minLength trim prefault).importLines model
      = e.importLines model := rfl
  have hname : (e.askStrings minLength trim prefault).config.modelSchemaName
      = e.config.modelSchemaName := rfl
  have hline : (e.importLines model).isEmpty = false := rfl
  rw [modelModule_model, modelModule_model, scalarSchema_model h, scalarSchema_model h',
    himports, hname] at heq
  unfold Emitter.joinSections at heq
  simp only [List.filter_cons, List.filter_nil, hline, List.isEmpty_cons, Bool.not_false, if_true,
    List.map_cons, List.map_nil, Text.join_cons_cons, Text.join_singleton, List.append_assoc,
    List.append_cancel_left_eq, List.append_cancel_right_eq] at heq
  exact heq

/-- What is asked of a string can be read off its validator. -/
theorem askedTokens_injective : ∀ a b d a' b' d' : Bool,
    Expression.chainText (Expression.distinct (askedTokens a b d))
      = Expression.chainText (Expression.distinct (askedTokens a' b' d')) →
    askedTokens a b d = askedTokens a' b' d' := by decide

theorem stringTokens_eq_of_modelModule_eq {e : Emitter} (h : e.hints = .empty)
    {minLength trim prefault : Bool}
    (heq : (e.askStrings minLength trim prefault).modelModule model = e.modelModule model) :
    stringTokens (e.config.askStrings minLength trim prefault) = stringTokens e.config := by
  have hr := render_validator_eq h heq
  rw [Expression.render_eq, Expression.render_eq] at hr
  exact askedTokens_injective _ _ _ _ _ _ (List.append_cancel_left hr)

end Probe

/-! ## Warnings -/

/-- Two settings generate the same from every data model, whatever the options, the hints and the
disk. -/
def GeneratesAlike (c c' : Config) : Prop :=
  ∀ (disk : Disk) (d : DataModel) (o : Options) (given? : Option Native.Hints),
    Run.render disk ⟨d, c, o⟩ given? = Run.render disk ⟨d, c', o⟩ given?

theorem generate_probe (e : Emitter) : e.generate { models := [Probe.model] }
    = [(("index.ts" : Text), Emitter.indexModule [Probe.model] false),
      ("user.ts", e.modelModule Probe.model)] := by
  have he : e.emitsEnums { models := [Probe.model] } = false := Bool.and_false _
  unfold Emitter.generate Emitter.allModules
  rw [he]
  rfl

theorem render_probe (disk : Disk) (c : Config) :
    (Run.render disk ⟨{ models := [Probe.model] }, c, {}⟩ (some .empty)).map Prod.fst
      = .ok ((Emitter.ofOptions disk.cwd false c {} .empty).generate
        { models := [Probe.model] }) := by
  have hasked : Emitter.askedSource? c {} = none := by
    unfold Emitter.askedSource?
    split <;> rfl
  rw [Run.render_some]
  unfold Run.renderWith Run.emitterOn
  dsimp only
  rw [hasked]
  rfl

/-- Settings that ask the same of strings generate the same, and only these: one required string
tells them apart. -/
theorem generatesAlike_askStrings_iff (c : Config) (minLength trim prefault : Bool) :
    GeneratesAlike c (c.askStrings minLength trim prefault) ↔
      stringTokens (c.askStrings minLength trim prefault) = stringTokens c := by
  constructor
  · intro h
    -- One run tells: no disk is needed, and hints that are given are empty.
    have hfiles := congrArg (Except.map Prod.fst)
      (h ⟨.folder [], []⟩ { models := [Probe.model] } {} (some .empty))
    rw [render_probe, render_probe, generate_probe, generate_probe, Except.ok.injEq] at hfiles
    have hmodule := congrArg (Ordered.get? ("user.ts" : Text)) hfiles
    exact Probe.stringTokens_eq_of_modelModule_eq (e := .ofOptions [] false c {} .empty) rfl
      (Option.some.inj hmodule).symm
  · intro h disk d o given?
    exact (Run.render_askStrings h disk d o given?).symm

/-- The report of the check of the settings has an item with this code. -/
def Warns (c : Config) (code : Text) : Prop :=
  ∃ i ∈ Check.reportOf (Check.settingsFindings c), i.code = code

theorem warns_iff {c : Config} {f : Check.Finding}
    (hf : ∀ g : Check.Finding, g.code = f.code → g = f) :
    Warns c f.code ↔ f ∈ Check.settingsFindings c := by
  unfold Warns Check.reportOf
  simp only [List.mem_map]
  constructor
  · rintro ⟨_, ⟨g, hg, rfl⟩, hcode⟩
    exact hf g hcode ▸ hg
  · exact fun h => ⟨_, ⟨f, h, rfl⟩, rfl⟩

theorem warns_prefault_iff (c : Config) : Warns c "PREFAULT_WITHOUT_TRIM" ↔
    (c.usePrefaultEmptyString && !(c.useMinLength && c.useTrimStrings)) = true := by
  refine (warns_iff (f := .prefaultWithoutTrim) fun g hg => ?_).trans ?_
  · cases g <;> first | rfl | (simp only [Check.Finding.code] at hg; exact absurd hg (by decide))
  · simp [Check.settingsFindings]

theorem warns_trim_iff (c : Config) : Warns c "TRIM_WITHOUT_MIN_LENGTH" ↔
    (c.useTrimStrings && !c.useMinLength) = true := by
  refine (warns_iff (f := .trimWithoutMinLength) fun g hg => ?_).trans ?_
  · cases g <;> first | rfl | (simp only [Check.Finding.code] at hg; exact absurd hg (by decide))
  · simp [Check.settingsFindings]

/-- **The check warns of what has no effect.**  It warns of a setting on strings exactly if the
setting is on, and every run generates the same with it off. -/
theorem warns_iff_generatesAlike (c : Config) :
    (Warns c "PREFAULT_WITHOUT_TRIM" ↔ c.usePrefaultEmptyString = true ∧
        GeneratesAlike c { c with usePrefaultEmptyString := false }) ∧
      (Warns c "TRIM_WITHOUT_MIN_LENGTH" ↔ c.useTrimStrings = true ∧
        GeneratesAlike c { c with useTrimStrings := false }) := by
  have hprefault : ∀ a b d : Bool, (d && !(a && b)) = true ↔
      d = true ∧ askedTokens a b false = askedTokens a b d := by decide
  have htrim : ∀ a b d : Bool, (b && !a) = true ↔
      b = true ∧ askedTokens a false d = askedTokens a b d := by decide
  constructor
  · have halike := generatesAlike_askStrings_iff c c.useMinLength c.useTrimStrings false
    rw [warns_prefault_iff, hprefault]
    exact and_congr_right' halike.symm
  · have halike := generatesAlike_askStrings_iff c c.useMinLength false c.usePrefaultEmptyString
    rw [warns_trim_iff, htrim _ _ c.usePrefaultEmptyString]
    exact and_congr_right' halike.symm

/-- Trimming is asked for without a minimum length: the check warns, and a required string keeps its
plain validator. -/
example : Warns { useTrimStrings := true } "TRIM_WITHOUT_MIN_LENGTH" ∧
    Probe.validator { useTrimStrings := true } = ⟨"z.string()", []⟩ := by
  exact ⟨(warns_trim_iff _).2 rfl, by decide⟩

end ValidatorGen
