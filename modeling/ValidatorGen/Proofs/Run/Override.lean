import ValidatorGen.Proofs.Intake.Standard
import ValidatorGen.Proofs.Run.Settings

/-!
# Settings over those of a document

Settings that are given for one run go over those of the document by their outer names, as entries
of one mapping over another.  A document may spell the same setting with its inner name, and then
the entry stays there beside the new one.

* `find?_putOver` — what is looked up among the merged entries;
* `twiceSpelled_putOver_iff` — which settings stand there twice;
* `readRequest_overridden` — the settings of the merged document, and when it has none.
-/

namespace ValidatorGen.Run

open Intake (Entries Key Readers Request readRequest dataModelIn? settingsIn optionsIn
  readHostConfig settingKeys TwiceSpelled Gives innerFault)

/-! ## Entries over others -/

/-- The entries of a mapping from texts. -/
def entriesOf (new : List (Text × Document)) : Entries := new.map fun e => (.text e.1, e.2)

/-- No setting stands there under its inner name alone. -/
def SpellsOuter (new : List (Text × Document)) : Prop :=
  ∀ k ∈ settingKeys, k.inner ∈ Ordered.keys new → k.inner = k.outer

instance (new : List (Text × Document)) : Decidable (SpellsOuter new) :=
  inferInstanceAs (Decidable (∀ k ∈ settingKeys, k.inner ∈ Ordered.keys new → k.inner = k.outer))

section

variable {new : List (Text × Document)} {es : Entries}

theorem field?_entriesOf_cons (n : Text) (e : Text × Document) (new : List (Text × Document)) :
    Document.field? n (entriesOf (e :: new))
      = if e.1 = n then some e.2 else Document.field? n (entriesOf new) := by
  have hkey : Document.same (.text e.1) (.text n) = true ↔ e.1 = n := by
    rw [Document.same_text_iff, Document.text.injEq]
  show Document.field? n ((.text e.1, e.2) :: entriesOf new) = _
  rw [Document.field?_cons]
  simp only [hkey]

theorem field?_putOver (hnew : (Ordered.keys new).Nodup) (n : Text) (es : Entries) :
    Document.field? n (putOver (entriesOf new) es) =
      if n ∈ Ordered.keys new then Document.field? n (entriesOf new)
      else Document.field? n es := by
  induction new generalizing es with
  | nil => rfl
  | cons e new ih =>
    obtain ⟨he, hnew⟩ : e.1 ∉ Ordered.keys new ∧ (Ordered.keys new).Nodup := List.nodup_cons.1 hnew
    show Document.field? n
      (putOver (entriesOf new) (Ordered.putBy Document.same (.text e.1) e.2 es)) = _
    rw [ih hnew, field?_entriesOf_cons, Ordered.keys_cons]
    by_cases hn : e.1 = n
    · subst hn
      rw [if_neg he, Document.field?_putBy_self, if_pos (List.mem_cons_self ..), if_pos rfl]
    · rw [Document.field?_putBy_of_ne hn, if_neg hn]
      simp only [List.mem_cons, Ne.symm hn, false_or]

theorem isSome_field?_entriesOf {n : Text} :
    (Document.field? n (entriesOf new)).isSome = true ↔ n ∈ Ordered.keys new := by
  rw [Document.isSome_field?_iff]
  simp [entriesOf, Ordered.keys]

/-- An overridden setting is found among the new entries, any other one among the old ones. -/
theorem find?_putOver (hnew : (Ordered.keys new).Nodup) (houter : SpellsOuter new) (es : Entries)
    {k : Key} (hk : k ∈ settingKeys) : k.find? (putOver (entriesOf new) es) =
      if k.outer ∈ Ordered.keys new then k.find? (entriesOf new) else k.find? es := by
  unfold Key.find?
  rw [field?_putOver hnew, field?_putOver hnew]
  by_cases ho : k.outer ∈ Ordered.keys new
  · obtain ⟨v, hv⟩ := Option.isSome_iff_exists.1 (isSome_field?_entriesOf.2 ho)
    rw [if_pos ho, if_pos ho, hv]
  · have hi : k.inner ∉ Ordered.keys new := fun hi => ho (houter k hk hi ▸ hi)
    rw [if_neg ho, if_neg ho, if_neg hi]

/-- What stands there twice has been overridden under its outer name, unless it stood there twice
before. -/
theorem twiceSpelled_putOver_iff (hnew : (Ordered.keys new).Nodup) (houter : SpellsOuter new)
    {k : Key} (hk : k ∈ settingKeys) (hes : ¬ TwiceSpelled es k) :
    TwiceSpelled (putOver (entriesOf new) es) k ↔
      k.inner ≠ k.outer ∧ k.outer ∈ Ordered.keys new ∧
        (Document.field? k.inner es).isSome = true := by
  have hinner : k.inner ≠ k.outer → Document.field? k.inner (putOver (entriesOf new) es)
      = Document.field? k.inner es := fun hne =>
    (field?_putOver hnew _ es).trans (if_neg fun hi => hne (houter k hk hi))
  constructor
  · rintro ⟨hne, ho, hi⟩
    rw [hinner hne] at hi
    refine ⟨hne, Decidable.not_not.1 fun hn => hes ⟨hne, ?_, hi⟩, hi⟩
    rwa [field?_putOver hnew, if_neg hn] at ho
  · rintro ⟨hne, ho, hi⟩
    refine ⟨hne, ?_, (hinner hne).symm ▸ hi⟩
    rw [field?_putOver hnew, if_pos ho]
    exact isSome_field?_entriesOf.2 ho

end

/-! ## The rest of the document -/

theorem looseEntries_of_settingsIn {raw es : Entries} (h : settingsIn raw = .ok es) :
    looseEntries (settingsOf raw) = .ok es := by
  unfold settingsIn at h
  unfold looseEntries settingsOf
  cases hd : Document.field? "config" raw with
  | none =>
    rw [hd] at h
    cases h
    rfl
  | some d =>
    rw [hd] at h
    dsimp only [Option.getD_some] at h ⊢
    split_ifs at h ⊢ with he
    · cases h
      rfl
    · have hopen : d.opened = .map es := by
        split at h
        · next heq =>
          cases h
          exact heq
        · cases h
      rw [hopen]

theorem optionsIn_putConfig (R : Readers) (v : Document) (raw : Entries)
    (folder? : Option Path) :
    optionsIn R (Ordered.putBy Document.same (.text "config") v raw) folder?
      = optionsIn R raw folder? := by
  have hpath : ∀ k : Key, "config" ≠ k.outer → "config" ≠ k.inner →
      Intake.pathIn? R.textRoom (Ordered.putBy Document.same (.text "config") v raw) folder? k
        = Intake.pathIn? R.textRoom raw folder? k := by
    intro k ho hi
    unfold Intake.pathIn? Key.find?
    rw [Document.field?_putBy_of_ne ho, Document.field?_putBy_of_ne hi]
  unfold optionsIn
  rw [hpath _ (by decide) (by decide), hpath _ (by decide) (by decide),
    hpath _ (by decide) (by decide)]

/-! ## The merged document -/

/-- An overridden setting that the document has under its inner name. -/
structure StaysBeside (raw : Entries) (new : List (Text × Document)) (k : Key) : Prop where
  setting : k ∈ settingKeys
  inner_ne : k.inner ≠ k.outer
  overridden : k.outer ∈ Ordered.keys new
  there : ∃ es, settingsIn raw = .ok es ∧ (Document.field? k.inner es).isSome = true

section

variable {R : Readers} {raw raw' es : Entries} {folder? : Option Path} {q : Request}
  {c' : Config} {new : List (Text × Document)}

/-- The settings of the merged document are those of both, one by one. -/
theorem gives_putOver (hnew : (Ordered.keys new).Nodup) (houter : SpellsOuter new) {c : Config}
    (hes : Gives R es c) (hvalid : Gives R (entriesOf new) c') :
    Gives R (putOver (entriesOf new) es) (c.overriddenBy (Ordered.keys new) c') :=
  hes.overridden hvalid fun _ hk => find?_putOver hnew houter es hk

theorem twiceSpelled_iff_staysBeside (hs : settingsIn raw = .ok es)
    (hnew : (Ordered.keys new).Nodup) (houter : SpellsOuter new)
    (hspelled : ∀ k ∈ settingKeys, ¬ TwiceSpelled es k) {k : Key} :
    (k ∈ settingKeys ∧ TwiceSpelled (putOver (entriesOf new) es) k) ↔ StaysBeside raw new k := by
  constructor
  · rintro ⟨hk, htwice⟩
    obtain ⟨hne, ho, hi⟩ := (twiceSpelled_putOver_iff hnew houter hk (hspelled k hk)).1 htwice
    exact ⟨hk, hne, ho, es, hs, hi⟩
  · rintro ⟨hk, hne, ho, es', hs', hi⟩
    cases hs.symm.trans hs'
    exact ⟨hk, (twiceSpelled_putOver_iff hnew houter hk (hspelled k hk)).2 ⟨hne, ho, hi⟩⟩

/-- **Settings put over those of a document.**  The readers are lawful.  The settings of a document
and those for one run are right by themselves, the latter under their outer names.  Then the latter
win, and all other settings stay, unless an overridden setting has its inner name in the document:
then the merged document is refused for this name. -/
theorem readRequest_overridden (hR : R.Lawful) (hread : readRequest R raw folder? = .ok q)
    (hnew : (Ordered.keys new).Nodup) (houter : SpellsOuter new)
    (hvalid : readHostConfig R (entriesOf new) = .ok c') :
    ∃ raw', overridden looseEntries (entriesOf new) raw = .ok raw' ∧
      (readRequest R raw' folder?
          = .ok { q with config := q.config.overriddenBy (Ordered.keys new) c' } ↔
        ¬ ∃ k, StaysBeside raw new k) ∧
      ((∃ k, StaysBeside raw new k) → ∃ fs, readRequest R raw' folder? = .error (.settings fs) ∧
        ∀ f, f ∈ fs ↔ ∃ k, StaysBeside raw new k ∧ f = innerFault k) := by
  by_cases hnil : new = []
  · -- Without new entries the document stays as it is, its settings unread.
    subst hnil
    have hnone : ¬ ∃ k, StaysBeside raw [] k := fun ⟨_, h⟩ => List.not_mem_nil h.overridden
    refine ⟨raw, overridden_nil _ _, ?_, fun h => absurd h hnone⟩
    rw [hread]
    exact iff_of_true (congrArg Except.ok (by rw [Ordered.keys_nil, Config.overriddenBy_nil])) hnone
  obtain ⟨d, es, hd, hs, hc, hm, ho⟩ := Intake.readRequest_eq_ok_iff.1 hread
  obtain ⟨hes, hspelled⟩ := (Intake.readHostConfig_eq_ok_iff hR).1 hc
  have hgives := gives_putOver hnew houter hes ((Intake.readHostConfig_eq_ok_iff hR).1 hvalid).1
  have hstays : ∀ k, _ ↔ StaysBeside raw new k := fun _ =>
    twiceSpelled_iff_staysBeside hs hnew houter hspelled
  have hentries : entriesOf new ≠ [] := by simpa [entriesOf] using hnil
  -- The merged document differs in its settings alone.
  refine ⟨_, overridden_of_ok hentries (looseEntries_of_settingsIn hs), ?_, ?_⟩
  · rw [Intake.readRequest_eq_ok_iff]
    constructor
    · rintro ⟨_, es', -, hs', hc', -, -⟩ ⟨k, hk⟩
      cases (settingsIn_putConfig _ raw).symm.trans hs'
      obtain ⟨hsetting, htwice⟩ := (hstays k).2 hk
      exact ((Intake.readHostConfig_eq_ok_iff hR).1 hc').2 k hsetting htwice
    · intro hnone
      have hc' := (Intake.readHostConfig_eq_ok_iff hR).2
        ⟨hgives, fun k hk htwice => hnone ⟨k, (hstays k).1 ⟨hk, htwice⟩⟩⟩
      exact ⟨d, _, (dataModelIn?_putConfig _ raw).trans hd, settingsIn_putConfig _ raw, hc', hm,
        (optionsIn_putConfig R _ raw folder?).trans ho⟩
  · rintro ⟨k, hk⟩
    obtain ⟨fs, hfs, hmem⟩ := Intake.readHostConfig_of_twiceSpelled hR hgives ⟨k, (hstays k).2 hk⟩
    refine ⟨fs, ?_, fun f => (hmem f).trans ?_⟩
    · rw [Intake.readRequest_of_settings ((dataModelIn?_putConfig _ raw).trans hd)
        (settingsIn_putConfig _ raw), hfs]
    · refine exists_congr fun k => ?_
      rw [← hstays k, and_assoc]

end

/-- A document without models, and with these settings. -/
def documentWith (settings : List (Text × Document)) : Entries :=
  [(.text "datamodel", .map [(.text "models", .list [])]),
    (.text "config", .map (entriesOf settings))]

/-- A suffix takes the place of another one, a minimum length stays, and coercion comes in. -/
theorem readRequest_overridden_suffix :
    let raw := documentWith [("use_min_length", .bool true), ("modelSuffix", .text "Schema")]
    let new : List (Text × Document) :=
      [("useCoerce", .text "true"), ("modelSuffix", .text "Shape")]
    let c : Config := { useMinLength := true, modelSuffix := "Schema" }
    let c' : Config := { useCoerce := true, modelSuffix := "Shape" }
    readRequest .standard raw none = .ok ⟨{}, c, {}⟩ ∧
      readHostConfig .standard (entriesOf new) = .ok c' ∧
      ∃ raw', overridden looseEntries (entriesOf new) raw = .ok raw' ∧
        readRequest .standard raw' none
          = .ok ⟨{}, { useMinLength := true, useCoerce := true, modelSuffix := "Shape" }, {}⟩ := by
  intro raw new c c'
  have hread : readRequest .standard raw none = .ok ⟨{}, c, {}⟩ := rfl
  have hvalid : readHostConfig .standard (entriesOf new) = .ok c' := rfl
  have hnone : ¬ ∃ k, StaysBeside raw new k := by
    rintro ⟨k, hk, hne, ho, es, hs, hi⟩
    cases hs
    revert k
    decide
  obtain ⟨raw', hover, hok, -⟩ :=
    readRequest_overridden Intake.readers_standard_lawful hread (by decide) (by decide) hvalid
  exact ⟨hread, hvalid, raw', hover, hok.2 hnone⟩

/-- A document that turns coercion off by its inner name cannot be run with coercion on. -/
theorem not_readRequest_overridden :
    let raw := documentWith [("use_coerce", .bool false)]
    let new : List (Text × Document) := [("useCoerce", .bool true)]
    (∃ q, readRequest .standard raw none = .ok q) ∧
      (∃ c', readHostConfig .standard (entriesOf new) = .ok c') ∧
      ∃ raw', overridden looseEntries (entriesOf new) raw = .ok raw' ∧
        readRequest .standard raw' none
          = .error (.settings [innerFault ⟨"useCoerce", "use_coerce"⟩]) :=
  ⟨⟨⟨{}, {}, {}⟩, rfl⟩, ⟨{ useCoerce := true }, rfl⟩, _, rfl, rfl⟩

end ValidatorGen.Run
