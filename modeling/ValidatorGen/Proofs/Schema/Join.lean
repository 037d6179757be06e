import ValidatorGen.Proofs.Schema.Hints
import ValidatorGen.Proofs.Text

/-!
# Sources behind each other

A schema may be spread over files.  What their joined text holds is what each of them holds, put
over that of the files before, as long as no block straddles a join.

* `exists_hasBlocks` — lines are closed blocks and, if the scan ends inside a block, an open one;
* `blocks_append`, `blocks_append_of_inside` — behind the former the scan starts anew, behind the
  latter its last block goes on;
* `foldl_addBlock_putOver` — collecting over hints is putting what is collected over them;
* `ofSource_append_lineFeed` — so the hints of a joined source are those of its parts, merged.
-/

namespace ValidatorGen.Native

open Ordered

/-! ## The state of the scan -/

/-- Whether the scan is inside a block behind one more line. -/
def stepInside (inside : Bool) (l : Text) : Bool :=
  if inside then !closesBlock l
  else match header? l with
    | none => false
    | some (_, r) => !(stripComment r).contains '}'

/-- Whether the scan is inside a block behind these lines. -/
def endsInside (ls : List Text) : Bool := ls.foldl stepInside false

/-- A block that is not left open ends at a line, and the scan goes on behind it. -/
theorem closed_or_open (ls : List Text) :
    (∃ body x rest, ls = body ++ x :: rest ∧ (∀ l ∈ body, closesBlock l = false) ∧
      closesBlock x = true ∧ ls.foldl stepInside true = endsInside rest) ∨
    ((∀ l ∈ ls, closesBlock l = false) ∧ ls.foldl stepInside true = true) := by
  induction ls with
  | nil => exact .inr ⟨by simp, rfl⟩
  | cons l ls ih =>
    rw [List.foldl_cons]
    cases hl : closesBlock l with
    | true =>
      have hstep : stepInside true l = false := by simp [stepInside, hl]
      rw [hstep]
      exact .inl ⟨[], l, ls, rfl, by simp, hl, rfl⟩
    | false =>
      have hstep : stepInside true l = true := by simp [stepInside, hl]
      rw [hstep]
      obtain ⟨body, x, rest, rfl, hbody, hx, hrest⟩ | ⟨hopen, hend⟩ := ih
      · exact .inl ⟨l :: body, x, rest, rfl, List.forall_mem_cons.2 ⟨hl, hbody⟩, hx, hrest⟩
      · exact .inr ⟨List.forall_mem_cons.2 ⟨hl, hopen⟩, hend⟩

theorem blocks_nil : blocks [] = [] := by
  rw [blocks]

theorem blocks_cons_of_none {l : Text} (h : header? l = none) (ls : List Text) :
    blocks (l :: ls) = blocks ls := by
  rw [blocks, h]

/-- A block on one line. -/
theorem blocks_cons_of_oneLine {l name r : Text} (h : header? l = some (name, r))
    (hr : (stripComment r).contains '}' = true) (ls : List Text) :
    blocks (l :: ls) = ⟨name, []⟩ :: blocks ls := by
  rw [blocks, h]
  exact if_pos hr

/-- A block goes up to the line that ends it. -/
theorem blocks_cons_of_body {l name r x : Text} {body : List Text} (h : header? l = some (name, r))
    (hr : (stripComment r).contains '}' = false) (hbody : ∀ k ∈ body, closesBlock k = false)
    (hx : closesBlock x = true) (ls : List Text) :
    blocks (l :: (body ++ x :: ls)) = ⟨name, body⟩ :: blocks ls := by
  have hopen : ∀ k ∈ body, (!closesBlock k) = true := fun k hk => by rw [hbody k hk]; rfl
  have hclose : ∀ k ∈ (x :: ls).head?, (!closesBlock k) = false := by
    rintro k ⟨⟩
    rw [hx]
    rfl
  rw [blocks, h]
  simp only [hr, Bool.false_eq_true, if_false, takeWhile_append_stop hopen hclose,
    dropWhile_append_stop hopen hclose, List.tail_cons]

/-- Lines whose blocks are `bs`, whatever comes behind them. -/
def HasBlocks (ls : List Text) (bs : List Block) : Prop := ∀ ks, blocks (ls ++ ks) = bs ++ blocks ks

theorem HasBlocks.blocks_eq {ls : List Text} {bs : List Block} (h : HasBlocks ls bs) :
    blocks ls = bs := by
  have hnil := h []
  rwa [List.append_nil, blocks_nil, List.append_nil] at hnil

/-- The lines of a block that is not closed: its header, and lines that do not end it. -/
def IsOpen (ls : List Text) (b : Block) : Prop :=
  ∃ l r, ls = l :: b.body ∧ header? l = some (b.name, r) ∧
    (stripComment r).contains '}' = false ∧ ∀ k ∈ b.body, closesBlock k = false

/-- What follows an open block goes on with it, up to the line that ends it. -/
theorem IsOpen.blocks_append {ls : List Text} {b : Block} (h : IsOpen ls b) (ks : List Text) :
    blocks (ls ++ ks) = ⟨b.name, b.body ++ ks.takeWhile (!closesBlock ·)⟩
      :: blocks (ks.dropWhile (!closesBlock ·)).tail := by
  obtain ⟨l, r, rfl, hl, hr, hbody⟩ := h
  have hopen : ∀ k ∈ b.body, (!closesBlock k) = true := fun k hk => by rw [hbody k hk]; rfl
  rw [List.cons_append, blocks, hl]
  simp only [hr, Bool.false_eq_true, if_false, List.takeWhile_append_of_pos hopen,
    List.dropWhile_append_of_pos hopen]

/-- Lines are closed blocks and, if the scan ends inside a block, an open one behind them.  The
induction is on the length: behind a block the scan starts anew. -/
theorem exists_hasBlocks (ls : List Text) :
    ∃ front rest bs, ls = front ++ rest ∧ HasBlocks front bs ∧
      ((rest = [] ∧ endsInside ls = false) ∨ ∃ b, IsOpen rest b ∧ endsInside ls = true) := by
  match ls with
  | [] => exact ⟨[], [], [], rfl, fun _ => rfl, .inl ⟨rfl, rfl⟩⟩
  | l :: ls =>
    have hfold : endsInside (l :: ls) = ls.foldl stepInside (stepInside false l) := rfl
    cases hl : header? l with
    | none =>
      have hstep : stepInside false l = false := by simp only [stepInside, hl]; rfl
      rw [hfold, hstep]
      obtain ⟨front, rest, bs, rfl, hfront, hrest⟩ := exists_hasBlocks ls
      refine ⟨l :: front, rest, bs, rfl, fun ks => ?_, hrest⟩
      exact (blocks_cons_of_none hl _).trans (hfront ks)
    | some p =>
      obtain ⟨name, r⟩ := p
      cases hr : (stripComment r).contains '}' with
      | true =>
        have hstep : stepInside false l = false := by simp only [stepInside, hl, hr]; rfl
        rw [hfold, hstep]
        obtain ⟨front, rest, bs, rfl, hfront, hrest⟩ := exists_hasBlocks ls
        refine ⟨l :: front, rest, ⟨name, []⟩ :: bs, rfl, fun ks => ?_, hrest⟩
        exact (blocks_cons_of_oneLine hl hr _).trans (congrArg _ (hfront ks))
      | false =>
        have hstep : stepInside false l = true := by simp only [stepInside, hl, hr]; rfl
        rw [hfold, hstep]
        obtain ⟨body, x, ls', hls, hbody, hx, hend⟩ | ⟨hopen, hend⟩ := closed_or_open ls
        · have hlen : ls'.length < ls.length := by
            rw [hls]
            simp
            omega
          rw [hend]
          obtain ⟨front, rest, bs, rfl, hfront, hrest⟩ := exists_hasBlocks ls'
          subst hls
          refine ⟨l :: (body ++ x :: front), rest, ⟨name, body⟩ :: bs, by simp, fun ks => ?_,
            hrest⟩
          have hblock := blocks_cons_of_body hl hr hbody hx (front ++ ks)
          rw [hfront ks] at hblock
          simpa using hblock
        · exact ⟨[], l :: ls, [], rfl, fun _ => rfl,
            .inr ⟨⟨name, ls⟩, ⟨l, r, rfl, hl, hr, hopen⟩, hend⟩⟩
termination_by ls.length
decreasing_by
  all_goals simp
  omega

/-- Behind lines that end outside of blocks the scan starts anew. -/
theorem blocks_append {ls : List Text} (h : endsInside ls = false) (ks : List Text) :
    blocks (ls ++ ks) = blocks ls ++ blocks ks := by
  obtain ⟨front, rest, bs, rfl, hfront, ⟨rfl, -⟩ | ⟨b, -, hend⟩⟩ := exists_hasBlocks ls
  · rw [List.append_nil, hfront ks, hfront.blocks_eq]
  · rw [h] at hend
    cases hend

/-- Behind lines that end inside a block, this block goes on. -/
theorem blocks_append_of_inside {ls : List Text} (h : endsInside ls = true) :
    ∃ bs b, blocks ls = bs ++ [b] ∧ ∀ ks, blocks (ls ++ ks) =
      bs ++ ⟨b.name, b.body ++ ks.takeWhile (!closesBlock ·)⟩
        :: blocks (ks.dropWhile (!closesBlock ·)).tail := by
  obtain ⟨front, rest, bs, rfl, hfront, ⟨-, hend⟩ | ⟨b, hb, -⟩⟩ := exists_hasBlocks ls
  · rw [h] at hend
    cases hend
  · have happend : ∀ ks, blocks (front ++ rest ++ ks) =
        bs ++ ⟨b.name, b.body ++ ks.takeWhile (!closesBlock ·)⟩
          :: blocks (ks.dropWhile (!closesBlock ·)).tail := fun ks => by
      rw [List.append_assoc, hfront, hb.blocks_append]
    refine ⟨bs, b, ?_, happend⟩
    have hnil := happend []
    rw [List.append_nil] at hnil
    rw [hnil]
    simp [blocks_nil]

/-! ## Hints over hints -/

/-- The hints of one source put over those of another, model by model and field by field. -/
def putOver (ms ns : List (Text × FieldHints)) : List (Text × FieldHints) :=
  ns.foldl (fun ms e => modify e.1 [] (merge · e.2) ms) ms

variable {ms ns : List (Text × FieldHints)}

theorem keys_putOver (hns : (keys ns).Nodup)
    (ms : List (Text × FieldHints)) :
    keys (putOver ms ns) = keys ms ++ (keys ns).filter (· ∉ keys ms) :=
  keys_foldl (fun ms e => keys_put e.1 _ ms) hns ms

/-- What a model has is merged. -/
theorem get?_putOver (hns : (keys ns).Nodup)
    (ms : List (Text × FieldHints)) (model : Text) :
    (get? model (putOver ms ns)).getD []
      = merge ((get? model ms).getD []) ((get? model ns).getD []) := by
  induction ns generalizing ms with
  | nil => rfl
  | cons e ns ih =>
    rw [keys_cons, List.nodup_cons] at hns
    show (get? model (putOver (modify e.1 [] (merge · e.2) ms) ns)).getD [] = _
    rw [ih hns.2, get?_cons]
    by_cases he : e.1 = model
    · subst he
      rw [get?_eq_none_iff.2 hns.1, get?_modify_self, if_pos (beq_self_eq_true _)]
      rfl
    · rw [get?_modify_of_ne he, if_neg (by simpa using he)]

/-- Each model is listed once, and so is each of its fields. -/
structure IsMapping (ms : List (Text × FieldHints)) : Prop where
  models : (keys ms).Nodup
  fields : ∀ e ∈ ms, (keys e.2).Nodup

theorem Collects.isMapping {es : List Entry} (h : Collects ms es) : IsMapping ms where
  models := h.nodup
  fields e he := (h.fields e.1 e.2 (get?_eq_some_of_mem h.nodup he)).2

/-- What the second source does not say of a model may be said before it, if the model is known. -/
theorem putOver_modify_of_mem {model : Text} (hm : model ∈ keys ms) (hn : model ∉ keys ns)
    (fs : FieldHints) :
    putOver (modify model [] (merge · fs) ms) ns
      = modify model [] (merge · fs) (putOver ms ns) := by
  induction ns generalizing ms with
  | nil => rfl
  | cons e ns ih =>
    rw [keys_cons, List.mem_cons, not_or] at hn
    show putOver (modify e.1 [] (merge · e.2) (modify model [] (merge · fs) ms)) ns
      = modify model [] (merge · fs) (putOver (modify e.1 [] (merge · e.2) ms) ns)
    rw [← modify_comm hn.1 hm, ih (mem_keys_modify hm e.1 _ _) hn.2]

/-- A block more in the second source is a block more behind both. -/
theorem putOver_modify (hn : IsMapping ns) (ms : List (Text × FieldHints)) (model : Text)
    (fs : FieldHints) :
    putOver ms (modify model [] (merge · fs) ns)
      = modify model [] (merge · fs) (putOver ms ns) := by
  induction ns generalizing ms with
  | nil =>
    show modify model [] (merge · (merge [] fs)) ms = modify model [] (merge · fs) ms
    have hmerge : ∀ gs : FieldHints, merge gs (merge [] fs) = merge gs fs := fun gs =>
      (merge_merge (n := []) List.nodup_nil gs fs).symm
    simp only [hmerge]
  | cons e ns ih =>
    obtain ⟨hkeys, hfields⟩ := hn
    rw [keys_cons, List.nodup_cons] at hkeys
    obtain ⟨hgs, hfields⟩ := List.forall_mem_cons.1 hfields
    by_cases he : e.1 = model
    · subst he
      have hmodify : modify e.1 [] (merge · fs) (e :: ns) = (e.1, merge e.2 fs) :: ns := by
        simp [Ordered.modify, put_cons, get?_cons]
      have hmerge : ∀ gs : FieldHints, merge gs (merge e.2 fs) = merge (merge gs e.2) fs :=
        fun gs => (merge_merge hgs gs fs).symm
      rw [hmodify]
      show putOver (modify e.1 [] (merge · (merge e.2 fs)) ms) ns
        = modify e.1 [] (merge · fs) (putOver (modify e.1 [] (merge · e.2) ms) ns)
      rw [← putOver_modify_of_mem (mem_keys_modify_self e.1 _ _ ms) hkeys.1, modify_modify]
      simp only [hmerge]
    · have hmodify : modify model [] (merge · fs) (e :: ns)
          = e :: modify model [] (merge · fs) ns := by
        simp [Ordered.modify, put_cons, get?_cons, he]
      rw [hmodify]
      exact ih ⟨hkeys.2, hfields⟩ (modify e.1 [] (merge · e.2) ms)

theorem putOver_addBlock (hn : IsMapping ns) (ms : List (Text × FieldHints)) (b : Block) :
    putOver ms (addBlock ns b) = addBlock (putOver ms ns) b := by
  unfold addBlock
  dsimp only
  split_ifs
  · rfl
  · exact putOver_modify hn ms b.name (blockHints b)

/-- Collecting over what is there already is putting over it what is collected. -/
theorem foldl_addBlock_putOver {es : List Entry} (h : Collects ns es)
    (ms : List (Text × FieldHints)) (bs : List Block) :
    bs.foldl addBlock (putOver ms ns) = putOver ms (bs.foldl addBlock ns) := by
  induction bs generalizing ns es with
  | nil => rfl
  | cons b bs ih =>
    rw [List.foldl_cons, List.foldl_cons, ← putOver_addBlock h.isMapping, ih (h.addBlock b)]

/-! ## Sources -/

theorem collects_ofLines (ls : List Text) :
    Collects (Hints.ofLines ls).models ((blocks ls).flatMap Block.entries) := by
  have h := collects_nil.foldl (blocks ls)
  rw [List.nil_append] at h
  rw [Hints.ofLines, h.ofModels]
  exact h

theorem models_ofLines (ls : List Text) :
    (Hints.ofLines ls).models = (blocks ls).foldl addBlock [] :=
  (collects_nil.foldl (blocks ls)).ofModels

/-- Lines behind lines that end outside of blocks are scanned by themselves. -/
theorem models_ofLines_append {ls : List Text} (h : endsInside ls = false) (ks : List Text) :
    (Hints.ofLines (ls ++ ks)).models
      = putOver (Hints.ofLines ls).models (Hints.ofLines ks).models := by
  rw [models_ofLines, models_ofLines, models_ofLines, blocks_append h, List.foldl_append,
    ← foldl_addBlock_putOver collects_nil]
  rfl

/-- The line feed between two sources ends the last line of the first one, or is taken by the
carriage return there. -/
theorem models_ofSource_lineFeed {s : Text} (h : endsInside (Text.lines s) = false) (t : Text) :
    (Hints.ofSource (s ++ "\n" ++ t)).models
      = putOver (Hints.ofSource s).models (Hints.ofSource t).models := by
  have hlines : Text.lines (s ++ "\n" ++ t)
      = Text.lines s ++ ((if Text.takesLineFeed s then [] else [[]]) ++ Text.lines t) := by
    rw [List.append_assoc]
    exact Text.lines_append_lineFeed s t
  have hempty : ∀ ls, (Hints.ofLines ([] :: ls)).models = (Hints.ofLines ls).models := fun ls => by
    rw [models_ofLines, models_ofLines, blocks_cons_of_none (by decide)]
  unfold Hints.ofSource
  rw [hlines, models_ofLines_append h]
  split_ifs
  · rfl
  · exact congrArg (putOver _) (hempty _)

/-- **Joined sources.**  If the first source does not end inside a block, the hints of both, with
a line feed between them, are merged: the second one has its way where both have a hint for a
field, and the models, like the fields of each, stand in the order in which they are first seen. -/
theorem ofSource_append_lineFeed {s : Text} (h : endsInside (Text.lines s) = false) (t : Text) :
    let joined := Hints.ofSource (s ++ "\n" ++ t)
    let first := Hints.ofSource s
    let second := Hints.ofSource t
    (∀ model field, joined.get? model field
        = (second.get? model field).or (first.get? model field)) ∧
      joined.names = first.names ++ second.names.filter (· ∉ first.names) ∧
      ∀ model, keys (joined.forModel model) = keys (first.forModel model)
        ++ (keys (second.forModel model)).filter (· ∉ keys (first.forModel model)) := by
  intro joined first second
  have hmodels : joined.models = putOver first.models second.models := models_ofSource_lineFeed h t
  have hsecond : Collects second.models _ := collects_ofLines (Text.lines t)
  have hfields : ∀ model, joined.forModel model
      = merge (first.forModel model) (second.forModel model) := fun model => by
    rw [Hints.forModel, hmodels]
    exact get?_putOver hsecond.nodup _ model
  have hnodup : ∀ model, (keys (second.forModel model)).Nodup := hsecond.nodup_getD
  refine ⟨fun model field => ?_, ?_, fun model => ?_⟩
  · rw [Hints.get?, hfields, get?_merge, get?_reverse (hnodup model)]
    rfl
  · rw [Hints.names, hmodels]
    exact keys_putOver hsecond.nodup _
  · rw [hfields]
    exact keys_merge (hnodup model) _

theorem ofSource_append_lineFeed_user :
    let s : Text := "model User \x7b\n  name String @db.VarChar(9)\n\x7d\nmodel Tag \x7b\x7d\r"
    let t : Text := "view Post \x7b\n  id Int @db.SmallInt\n\x7d\n" ++
      "model User \x7b\n  id Int @db.Int\n  name String @db.Text"
    endsInside (Text.lines s) = false ∧
      (Hints.ofSource (s ++ "\n" ++ t)).get? "User" "name" = some "Text" ∧
      (Hints.ofSource (s ++ "\n" ++ t)).names = [("User" : Text), "Post"] ∧
      keys ((Hints.ofSource (s ++ "\n" ++ t)).forModel "User") = [("name" : Text), "id"] := by
  intro s t
  have hs : endsInside (Text.lines s) = false := by decide +kernel
  obtain ⟨hget, hnames, hkeys⟩ := ofSource_append_lineFeed hs t
  exact ⟨hs, (hget _ _).trans (by decide +kernel), hnames.trans (by decide +kernel),
    (hkeys _).trans (by decide +kernel)⟩

end ValidatorGen.Native
