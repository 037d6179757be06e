import ValidatorGen.Intake.Standard.Readers
import ValidatorGen.Proofs.Intake.Settings

/-!
# The standard readers are lawful

* `Reading.raised?_app`, `raised?_readList`, ... — what a reading raises that is put together;
* `raised?_readSettings` — nothing is raised by reading settings;
* `readDataModel_eq_raised_iff` — what is raised by reading a data model;
* `readSettings_eq_ok_iff`, `readSettings_extra` — which entries are settings;
* `readers_standard_lawful` — all the laws.
-/

namespace ValidatorGen.Intake

/-! ## Readings that are put together -/

namespace Reading

variable {α β : Type}

/-- What a reading raises. -/
def raised? : Reading α → Option Raised
  | refused (.raised r) => some r
  | _ => none

@[simp] theorem raised?_ok (a : α) : (ok a).raised? = none := rfl

@[simp] theorem raised?_fault (c : Complaint) : (fault c : Reading α).raised? = none := rfl

@[simp] theorem raised?_faults (fs : List Fault) :
    (refused (.faults fs) : Reading α).raised? = none := rfl

@[simp] theorem raised?_raised (r : Raised) :
    (refused (.raised r) : Reading α).raised? = some r := rfl

theorem raised?_eq_some_iff {x : Reading α} {r : Raised} :
    x.raised? = some r ↔ x = refused (.raised r) := by
  rcases x with a | (fs | r') <;> simp

@[simp] theorem raised?_map (f : α → β) (x : Reading α) : (x.map f).raised? = x.raised? := by
  rcases x with a | (fs | r) <;> rfl

@[simp] theorem raised?_located (s : Step) (x : Reading α) :
    (x.located s).raised? = x.raised? := by
  rcases x with a | (fs | r) <;> rfl

/-- The first part of a record that raises something is the one that counts. -/
@[simp] theorem raised?_app (f : Reading (α → β)) (x : Reading α) :
    (f.app x).raised? = f.raised?.or x.raised? := by
  rcases f with f | (fs | r) <;> rcases x with a | (gs | r') <;> rfl

/-- A second look at what was read raises nothing, if it never does. -/
theorem raised?_bind {f : α → Reading β} (hf : ∀ a, (f a).raised? = none) (x : Reading α) :
    (x.bind f).raised? = x.raised? := by
  rcases x with a | (fs | r)
  · exact hf a
  · rfl
  · rfl

end Reading

/-- A hook that raises nothing is followed by the reading of one value, if at all. -/
theorem raised?_hooked {α : Type} (read : Document → Reading α) (h : Hooked)
    (hread : ∀ d, (read d).raised? = none) (hh : ∀ r, h ≠ .raised r) :
    (h.read read).raised? = none := by
  cases h with
  | value d => exact hread d
  | fault c => rfl
  | raised r => exact absurd rfl (hh r)

section

variable {α : Type} {read : Document → Reading α} {r : Raised}

theorem raised?_readItems (n : Nat) (ds : List Document) :
    (readItems read n ds).raised? = ds.findSome? fun d => (read d).raised? := by
  induction ds generalizing n with
  | nil => rfl
  | cons d ds ih =>
    rw [readItems, Reading.raised?_app, Reading.raised?_map, Reading.raised?_located, ih,
      List.findSome?_cons]
    cases (read d).raised? <;> rfl

/-- Where only one thing can be raised, it does not matter which item raises it first. -/
theorem raised?_readList {c : Raised} (hread : ∀ d r, (read d).raised? = some r → r = c)
    (d : Document) :
    (readList read d).raised? = some r ↔
      ∃ items, Lists d items ∧ ∃ i ∈ items, (read i).raised? = some r := by
  have hitems : ∀ items : List Document, (items.findSome? fun d => (read d).raised?) = some r ↔
      ∃ i ∈ items, (read i).raised? = some r := by
    intro items
    refine ⟨List.exists_of_findSome?_eq_some, ?_⟩
    rintro ⟨i, hi, hr⟩
    cases hfind : items.findSome? fun d => (read d).raised? with
    | none => exact absurd (List.findSome?_eq_none_iff.1 hfind i hi) (by simp [hr])
    | some r' =>
      obtain ⟨j, -, hr'⟩ := List.exists_of_findSome?_eq_some hfind
      rw [hread i r hr, hread j r' hr']
  unfold readList Lists
  cases d.opened <;> simp [raised?_readItems, hitems]

theorem raised?_readList_eq_none (hread : ∀ d, (read d).raised? = none) (d : Document) :
    (readList read d).raised? = none := by
  unfold readList
  split <;> simp [raised?_readItems, hread]

theorem raised?_required (es : Entries) (k : Key) :
    (k.required read es).raised? = (k.find? es).bind fun e => (read e.2).raised? := by
  unfold Key.required
  rcases k.find? es with _ | ⟨name, v⟩ <;> simp

theorem raised?_optional (es : Entries) (k : Key) (default : α) :
    (k.optional default read es).raised? = (k.find? es).bind fun e => (read e.2).raised? := by
  unfold Key.optional
  rcases k.find? es with _ | ⟨name, v⟩ <;> simp

theorem raised?_readRecord {name : Text} {readEntries : Entries → Reading α} (d : Document) :
    (readRecord name readEntries d).raised? = some r ↔
      ∃ es, d.opened = .map es ∧ (readEntries es).raised? = some r := by
  unfold readRecord
  cases d.opened <;> simp

theorem raised?_readRecord_eq_none {name : Text} {readEntries : Entries → Reading α}
    (h : ∀ es, (readEntries es).raised? = none) (d : Document) :
    (readRecord name readEntries d).raised? = none := by
  unfold readRecord
  split <;> simp [h]

end

/-! ## Readings that raise nothing -/

@[simp] theorem raised?_readText (d : Document) : (readText d).raised? = none := by
  unfold readText
  split
  · rfl
  · split <;> rfl
  · rfl

@[simp] theorem raised?_readWhole (d : Document) : (readWhole d).raised? = none := by
  unfold readWhole
  rw [Reading.raised?_bind fun s => by split <;> rfl]
  exact raised?_readText d

@[simp] theorem raised?_readName (d : Document) : (readName d).raised? = none := by
  unfold readName
  rw [Reading.raised?_bind fun s => by split <;> rfl]
  exact raised?_readWhole d

@[simp] theorem raised?_readChoice {α : Type} (words : Text) (choice? : Text → Option α)
    (d : Document) : (readChoice words choice? d).raised? = none := by
  unfold readChoice
  split
  · split
    · rfl
    · split <;> rfl
  · rfl

@[simp] theorem raised?_readNullable {α : Type} {read : Document → Reading α}
    (h : ∀ d, (read d).raised? = none) (d : Document) : (readNullable read d).raised? = none := by
  unfold readNullable
  split
  · rfl
  · rw [Reading.raised?_map]
    exact h d

@[simp] theorem raised?_readBoolWord (s : Text) : (readBoolWord s).raised? = none := by
  unfold readBoolWord
  split
  · rfl
  · split <;> rfl

@[simp] theorem raised?_readBoolNumber (n : Int) : (readBoolNumber n).raised? = none := by
  unfold readBoolNumber
  split_ifs <;> rfl

@[simp] theorem raised?_readBool (d : Document) : (readBool d).raised? = none := by
  unfold readBool
  split
  · rfl
  · exact raised?_readBoolWord _
  · split
    · exact raised?_readBoolWord _
    · rfl
  · split_ifs
    · exact raised?_readBoolNumber _
    · rfl
  · split
    · exact raised?_readBoolNumber _
    · rfl
  · rfl

@[simp] theorem raised?_readMode (d : Document) : (readMode d).raised? = none := by
  unfold readMode
  dsimp only
  split_ifs
  · rfl
  · have hbool := raised?_readBool d
    split
    · rfl
    · rfl
    · next r h =>
      rw [h] at hbool
      cases hbool

/-! ## Settings -/

@[simp] theorem raised?_switch (d : Document) : (ValueReaders.standard.switch d).raised? = none :=
  raised?_hooked _ _ raised?_readBool (switchHook_ne_raised d)

@[simp] theorem raised?_relationMode (d : Document) :
    (ValueReaders.standard.relationMode d).raised? = none :=
  raised?_hooked _ _ raised?_readMode (modeHook_ne_raised d)

theorem raised?_readNoExtra (es : Entries) : (readNoExtra es).raised? = none := by
  unfold readNoExtra
  dsimp only
  split_ifs <;> rfl

theorem raised?_readSettings (es : Entries) : (readSettings es).raised? = none := by
  have htext : ∀ d, (ValueReaders.standard.text d).raised? = none := raised?_readText
  have hname : ∀ d, (ValueReaders.standard.name d).raised? = none := raised?_readName
  have hcase : ∀ d, (ValueReaders.standard.nameCase d).raised? = none := raised?_readChoice _ _
  have hsettings : (ValueReaders.standard.settings es).raised? = none := by
    unfold ValueReaders.settings
    simp [raised?_optional, htext, hname, hcase]
  unfold readSettings
  split_ifs
  · rfl
  · simp [hsettings, raised?_readNoExtra]

theorem mem_usedNames_iff {es : Entries} {n : Text} : n ∈ usedNames es ↔ IsUsed es n := by
  unfold usedNames IsUsed
  simp

section

variable {es : Entries} (hknown : ∀ e ∈ es, isKnown e.1 = true)

include hknown

/-- Names of settings can be written. -/
theorem any_isBroken : (es.any fun e => isBroken e.1) = false := by
  rw [List.any_eq_false]
  intro e he
  have hwritable : ∀ n ∈ knownNames, ¬ isBroken (.text n) = true := by decide +kernel
  obtain ⟨n, hn, hkey⟩ := isKnown_iff.1 (hknown e he)
  rw [hkey]
  exact hwritable n hn

theorem readSettings_eq : readSettings es =
    ((ValueReaders.standard.settings es).map fun c _ => c).app (readNoExtra es) := by
  unfold readSettings
  rw [any_isBroken hknown]
  rfl

/-- Refused is every entry that is not looked up. -/
theorem mem_extraFaults_iff {f : Fault} :
    f ∈ es.filterMap (fun e => extraFault? (usedNames es) e.1) ↔
      ∃ e ∈ es, ∃ n, e.1 = .text n ∧ ¬ IsUsed es n ∧ f = extraFault n := by
  rw [List.mem_filterMap]
  refine exists_congr fun e => and_congr_right fun he => ?_
  obtain ⟨n, -, hkey⟩ := isKnown_iff.1 (hknown e he)
  simp [hkey, extraFault?, mem_usedNames_iff, extraFault, eq_comm]

theorem readNoExtra_eq_ok_iff :
    readNoExtra es = .ok () ↔ ∀ e ∈ es, ∀ n, e.1 = .text n → IsUsed es n := by
  have hempty : (es.filterMap fun e => extraFault? (usedNames es) e.1).isEmpty = true ↔
      ∀ e ∈ es, ∀ n, e.1 = .text n → IsUsed es n := by
    rw [List.isEmpty_iff, List.eq_nil_iff_forall_not_mem]
    simp only [mem_extraFaults_iff hknown]
    constructor
    · intro h e he n hkey
      by_contra hunused
      exact h _ ⟨e, he, n, hkey, hunused, rfl⟩
    · rintro h f ⟨e, he, n, hkey, hunused, -⟩
      exact hunused (h e he n hkey)
  rw [← hempty]
  unfold readNoExtra
  dsimp only
  split_ifs with h <;> simp [h]

theorem readSettings_eq_ok_iff {c : Config} : readSettings es = .ok c ↔
    ValueReaders.standard.settings es = .ok c ∧ ∀ e ∈ es, ∀ n, e.1 = .text n → IsUsed es n := by
  rw [readSettings_eq hknown, ← readNoExtra_eq_ok_iff hknown, Reading.app_eq_ok]
  cases ValueReaders.standard.settings es with
  | ok c' =>
    have hunit : (∃ u, readNoExtra es = .ok u) ↔ readNoExtra es = .ok () :=
      ⟨fun ⟨_, h⟩ => h, fun h => ⟨(), h⟩⟩
    simp [Reading.map, and_comm, hunit]
  | refused r => simp [Reading.map]

theorem readSettings_extra {c : Config} (h : ValueReaders.standard.settings es = .ok c)
    (hextra : ∃ e ∈ es, ∃ n, e.1 = .text n ∧ ¬ IsUsed es n) :
    ∃ fs, readSettings es = .refused (.faults fs) ∧
      ∀ f, f ∈ fs ↔ ∃ e ∈ es, ∃ n, e.1 = .text n ∧ ¬ IsUsed es n ∧ f = extraFault n := by
  have hne : readNoExtra es ≠ .ok () := by
    rw [Ne, readNoExtra_eq_ok_iff hknown]
    obtain ⟨e, he, n, hkey, hunused⟩ := hextra
    exact fun hall => hunused (hall e he n hkey)
  refine ⟨es.filterMap fun e => extraFault? (usedNames es) e.1, ?_,
    fun f => mem_extraFaults_iff hknown⟩
  rw [readSettings_eq hknown, h]
  unfold readNoExtra at hne ⊢
  dsimp only at hne ⊢
  split_ifs at hne ⊢ with hempty
  · exact absurd rfl hne
  · rfl

end

/-! ## Data models -/

@[simp] theorem raised?_readKind (d : Document) : (readKind d).raised? = none :=
  raised?_hooked _ _ (raised?_readChoice _ _) (kindHook_ne_raised d)

@[simp] theorem raised?_readLiteral (d : Document) : (readLiteral d).raised? = none := by
  unfold readLiteral
  split
  case h_7 => split <;> rfl
  all_goals rfl

@[simp] theorem raised?_readDefault (d : Document) : (readDefault d).raised? = none :=
  raised?_hooked _ _ raised?_readLiteral (defaultHook_ne_raised d)

@[simp] theorem raised?_readDocumentation (es : Entries) :
    (readDocumentation es).raised? = none := by
  simp [readDocumentation, raised?_optional]

@[simp] theorem raised?_readField (d : Document) : (readField d).raised? = none :=
  raised?_readRecord_eq_none (fun es => by simp [raised?_optional, raised?_required]) d

@[simp] theorem raised?_readModel (d : Document) : (readModel d).raised? = none :=
  raised?_readRecord_eq_none (fun es => by
    simp [raised?_optional, raised?_required, raised?_readList_eq_none raised?_readField]) d

@[simp] theorem raised?_readNames (d : Document) : (readNames d).raised? = none := by
  unfold readNames
  rw [Reading.raised?_bind fun ns => by split <;> rfl]
  exact raised?_readList_eq_none raised?_readText d

theorem raised?_readValues {d : Document} {r : Raised} :
    (readValues d).raised? = some r ↔ HasNameless d ∧ r = missingName := by
  rw [← valuesHook_eq_raised_iff]
  unfold readValues
  cases valuesHook d with
  | value v => simp [Hooked.read]
  | fault c => simp [Hooked.read]
  | raised r' => simp [Hooked.read]

/-- A key with one name is looked up under this name. -/
theorem exists_find?_plain {n : Text} {es : Entries} {P : Document → Prop} :
    (∃ name v, (Key.plain n).find? es = some (name, v) ∧ P v) ↔
      ∃ v, Document.field? n es = some v ∧ P v := by
  unfold Key.plain Key.find?
  cases Document.field? n es <;> simp

theorem raised?_readEnumeration {d : Document} {r : Raised} :
    (readEnumeration d).raised? = some r ↔
      ∃ fs values, d.opened = .map fs ∧ Document.field? "values" fs = some values ∧
        HasNameless values ∧ r = missingName := by
  unfold readEnumeration
  simp [raised?_readRecord, raised?_required, Option.bind_eq_some_iff, raised?_readValues,
    exists_find?_plain]

/-- Nothing is raised by reading a data model but by a value without a name. -/
theorem readDataModel_eq_raised_iff {d : Document} {r : Raised} :
    readDataModel d = .refused (.raised r) ↔ HasNamelessValue d ∧ r = missingName := by
  have hmodels : ∀ d, (readList readModel d).raised? = none :=
    raised?_readList_eq_none raised?_readModel
  have henums : ∀ d r, (readEnumeration d).raised? = some r → r = missingName := by
    intro d r h
    obtain ⟨_, _, -, -, -, hr⟩ := raised?_readEnumeration.1 h
    exact hr
  rw [← Reading.raised?_eq_some_iff]
  unfold readDataModel
  simp only [raised?_readRecord, raised?_optional, Reading.raised?_app, Reading.raised?_ok,
    hmodels, Option.none_or, Option.bind_fun_none, Option.bind_eq_some_iff, Prod.exists,
    exists_find?_plain, raised?_readList henums, raised?_readEnumeration]
  constructor
  · rintro ⟨es, hd, v, hv, items, hitems, i, hi, fs, values, hi', hvalues, hnameless, hr⟩
    exact ⟨⟨es, fs, values, hd, ⟨v, items, i, hv, hitems, hi, hi'⟩, hvalues, hnameless⟩, hr⟩
  · rintro ⟨⟨es, fs, values, hd, ⟨v, items, i, hv, hitems, hi, hi'⟩, hvalues, hnameless⟩, hr⟩
    exact ⟨es, hd, v, hv, items, hitems, i, hi, fs, values, hi', hvalues, hnameless, hr⟩

/-! ## The laws -/

theorem readPaths_eq (output? schema? client? : Option Text) :
    readPaths (pathEntry "output_path" output? ++ pathEntry "schema_path" schema?
        ++ pathEntry "client_path" client?)
      = .ok ⟨output?.getD "./generated", schema?, client?⟩ := by
  cases output? <;> cases schema? <;> cases client? <;> rfl

/-- **The standard readers are lawful.** -/
theorem readers_standard_lawful : Readers.standard.Lawful where
  config_eq_ok_iff es c hknown := readSettings_eq_ok_iff hknown
  config_extra es c hknown h hextra := readSettings_extra hknown h hextra
  config_raised es r h := by
    have hraised : (readSettings es).raised? = some r := Reading.raised?_eq_some_iff.2 h
    rw [raised?_readSettings] at hraised
    cases hraised
  dataModel_raised d r h := exists_raises_iff.2 (readDataModel_eq_raised_iff.1 h)
  dataModel_raises d hook v r hmeets hraised :=
    ⟨r, readDataModel_eq_raised_iff.2 (exists_raises_iff.1 ⟨hook, v, hmeets, hraised⟩)⟩
  options_paths := readPaths_eq

end ValidatorGen.Intake
