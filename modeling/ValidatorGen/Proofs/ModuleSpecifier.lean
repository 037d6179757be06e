import ValidatorGen.ModuleSpecifier
import ValidatorGen.Proofs.Path

/-!
# Module specifiers lead back

The specifier of a target, taken from the directory of the module that imports it, leads to the
target again.

* `ofRelative_join` — from the parts of a way the specifier is made by joining them, with `./` in
  front where they do not start with it or with `../`;
* `marked_ofRelative`, `partsOf_ofRelative` — so it starts with one of the two, and its parts are
  those of the way;
* `absolute_join_relative` — and a way that is followed from its start leads to its target.
-/

namespace ValidatorGen.ModuleSpecifier

open ValidatorGen.Path

/-- A part that a specifier keeps as it is. -/
structure IsKept (a : Text) : Prop where
  slash : CodePoint.char '/' ∉ a
  backslash : CodePoint.char '\\' ∉ a
  empty : a ≠ []
  package : a ≠ "node_modules"

/-- A text that says that it is a relative path. -/
def IsMarked (s : Text) : Prop := ("./" : Text) <+: s ∨ ("../" : Text) <+: s

/-- Parts without those that stand for the place itself. -/
def withoutHere (ps : List Text) : List Text := ps.filter fun a : Text => a ≠ "."

/-! ## Joined parts -/

theorem squeeze_append {s : Text} (hs : .char '/' ∉ s) (t : Text) :
    squeeze (s ++ t) = s ++ squeeze t := by
  induction s with
  | nil => rfl
  | cons c s ih =>
    rw [List.mem_cons, not_or] at hs
    have hc : (c = '/' && (s ++ t).head? == some '/') = false := by
      simp [Ne.symm hs.1]
    rw [List.cons_append, squeeze, hc, if_neg Bool.false_ne_true, ih hs.2, List.cons_append]

theorem squeeze_slash {t : Text} (ht : t.head? ≠ some '/') :
    squeeze (.char '/' :: t) = .char '/' :: squeeze t := by
  rw [squeeze, if_neg]
  simpa using ht

section

variable {ps : List Text} (h : ∀ a ∈ ps, IsKept a)
include h

theorem head?_join : (Text.join "/" ps).head? ≠ some '/' := by
  cases ps with
  | nil => simp [Text.join]
  | cons a ps =>
    have ha := h a List.mem_cons_self
    obtain ⟨c, r, rfl⟩ := List.exists_cons_of_ne_nil ha.empty
    rw [Text.join_cons, List.cons_append, List.head?_cons]
    intro hc
    exact ha.slash (Option.some.inj hc ▸ List.mem_cons_self)

theorem squeeze_join : squeeze (Text.join "/" ps) = Text.join "/" ps := by
  induction ps with
  | nil => rfl
  | cons a ps ih =>
    obtain ⟨ha, hps⟩ := List.forall_mem_cons.1 h
    cases ps with
    | nil =>
      have hsqueeze := squeeze_append ha.slash []
      rw [Text.join_singleton]
      rwa [List.append_nil, squeeze, List.append_nil] at hsqueeze
    | cons b ps =>
      have hslash := squeeze_slash (head?_join hps)
      rw [ih hps] at hslash
      rw [Text.join_cons_cons, squeeze_append ha.slash]
      exact congrArg (a ++ ·) hslash

theorem splitOn_join_kept (hne : ps ≠ []) : Text.splitOn '/' (Text.join "/" ps) = ps :=
  Text.splitOn_join (fun a ha => (h a ha).slash) hne

theorem not_mem_join_backslash : .char '\\' ∉ Text.join "/" ps := by
  cases ps with
  | nil => simp [Text.join]
  | cons a ps =>
    obtain ⟨ha, hps⟩ := List.forall_mem_cons.1 h
    rw [Text.join_cons, List.mem_append, List.mem_flatMap]
    rintro (hc | ⟨b, hb, hc⟩)
    · exact ha.backslash hc
    · rcases List.mem_append.1 hc with hc | hc
      · exact absurd hc (by decide)
      · exact (hps b hb).backslash hc

theorem not_mem_package : ("node_modules" : Text) ∉ ps := fun hm => (h _ hm).package rfl

/-- The specifier of a way: its parts joined, and marked as relative where they are not. -/
theorem ofRelative_join (hne : ps ≠ []) :
    ofRelative (Text.join "/" ps) =
      if ("../" : Text).isPrefixOf (Text.join "/" ps) || ("./" : Text).isPrefixOf (Text.join "/" ps)
      then Text.join "/" ps else "./" ++ Text.join "/" ps := by
  have hback := not_mem_join_backslash h
  have hsplit := splitOn_join_kept h hne
  have hsqueeze := squeeze_join h
  have hpackage := not_mem_package h
  set s := Text.join "/" ps
  have hbare : Text.dropStart? "\\\\?\\" s = none :=
    Text.dropStart?_eq_none_of_not_prefix fun hp => hback (hp.subset (by decide))
  have hmap : List.map (fun c : CodePoint => if c = '\\' then .char '/' else c) s = s := by
    refine (List.map_congr_left fun c hc => if_neg ?_).trans (List.map_id _)
    rintro rfl
    exact hback hc
  have hinside : Text.behind? "/node_modules/" s = none :=
    Text.behind?_eq_none fun hi => hpackage
      (hsplit ▸ Text.mem_splitOn_of_infix (c := .char '/') (by decide) hi)
  have hstart : Text.dropStart? "node_modules/" s = none := by
    refine Text.dropStart?_eq_none_of_not_prefix fun ⟨r, hr⟩ => hpackage ?_
    have hpieces : Text.splitOn '/' s = ("node_modules" : Text) :: Text.splitOn '/' r := by
      rw [← hr]
      exact Text.splitOn_append_cons '/' "node_modules" r
    rw [← hsplit, hpieces]
    exact List.mem_cons_self
  simp only [ofRelative, hbare, Option.getD_none, hmap, hsqueeze, hinside, hstart,
    Option.isSome_none, Bool.false_eq_true, if_false]

/-- A specifier that is made of parts is marked as relative. -/
theorem marked_ofRelative (hne : ps ≠ []) : IsMarked (ofRelative (Text.join "/" ps)) := by
  rw [ofRelative_join h hne]
  split_ifs with hmark
  · rw [Bool.or_eq_true, List.isPrefixOf_iff_prefix, List.isPrefixOf_iff_prefix] at hmark
    exact hmark.symm
  · exact .inl (List.prefix_append _ _)

/-- Its parts are those that it is made of. -/
theorem partsOf_ofRelative (hne : ps ≠ []) :
    partsOf (ofRelative (Text.join "/" ps)) = withoutHere ps := by
  have hkept : (ps.filter fun a : Text => !a.isEmpty && a ≠ ".") = withoutHere ps := by
    refine List.filter_congr fun a ha => ?_
    rw [List.isEmpty_eq_false_iff.2 (h a ha).empty]
    rfl
  rw [ofRelative_join h hne]
  split_ifs
  · rw [partsOf, splitOn_join_kept h hne, hkept]
  · have hpieces : Text.splitOn '/' ("./" ++ Text.join "/" ps) = ("." : Text) :: ps :=
      (Text.splitOn_append_cons '/' "." (Text.join "/" ps)).trans
        (congrArg (("." : Text) :: ·) (splitOn_join_kept h hne))
    rw [partsOf, hpieces, ← hkept]
    rfl

end

theorem IsMarked.slashes {s : Text} (h : IsMarked s) : (ofText s).slashes = 0 := by
  rcases h with ⟨r, rfl⟩ | ⟨r, rfl⟩ <;> rfl

/-! ## There and back -/

/-- The parts of the way that a specifier is made of; the way from a place to itself has one. -/
theorem between_eq (target start : List Text) :
    ∃ ps, ps ≠ [] ∧ between target start = ofRelative (Text.join "/" ps) ∧
      (∀ a ∈ ps, a = "." ∨ a ∈ Path.relative target start) ∧
      withoutHere ps = withoutHere (Path.relative target start) := by
  unfold between
  dsimp only
  split_ifs with hway
  · exact ⟨["."], by simp, by rw [Text.join_singleton], by simp, by rw [hway]; rfl⟩
  · exact ⟨_, hway, rfl, fun a ha => .inr ha, rfl⟩

/-- **There and back.**  For a target without backslashes that is not in a package folder, the
specifier starts with `./` or `../`, and what it leads to from the directory of the importing
module is the target. -/
theorem absolute_join_relative {cwd : List Text} (hcwd : ∀ a ∈ cwd, IsPlain a)
    {target : Text} (start : Text) (htarget : ∀ a ∈ (ofText target).absolute cwd,
      .char '\\' ∉ a ∧ a ≠ "node_modules") :
    let specifier := relative cwd target start
    (("./" : Text) <+: specifier ∨ ("../" : Text) <+: specifier) ∧
      (((ofText start).absolutePath cwd).join (ofText specifier)).absolute cwd
        = (ofText target).absolute cwd := by
  intro specifier
  have hpart : ∀ a ∈ (ofText target).absolute cwd, IsPart a := fun a =>
    isPart_of_mem_absolute fun a ha => (hcwd a ha).isPart
  set t := (ofText target).absolute cwd
  set s := (ofText start).absolute cwd
  have hway : ∀ a ∈ Path.relative t s, IsKept a ∧ a ≠ "." := by
    intro a ha
    rcases mem_relative ha with rfl | ha
    · exact ⟨⟨by decide, by decide, by decide, by decide⟩, by decide⟩
    · obtain ⟨hslash, hempty, hhere⟩ := hpart a ha
      exact ⟨⟨hslash, (htarget a ha).1, hempty, (htarget a ha).2⟩, hhere⟩
  obtain ⟨ps, hne, heq, hps, hfilter⟩ := between_eq t s
  have hkept : ∀ a ∈ ps, IsKept a := by
    intro a ha
    rcases hps a ha with rfl | ha
    · exact ⟨by decide, by decide, by decide, by decide⟩
    · exact (hway a ha).1
  have hspecifier : specifier = ofRelative (Text.join "/" ps) := heq
  have hmarked : IsMarked specifier := hspecifier ▸ marked_ofRelative hkept hne
  have hparts : (ofText specifier).parts = Path.relative t s := by
    have hall : withoutHere (Path.relative t s) = Path.relative t s :=
      List.filter_eq_self.2 fun a ha => decide_eq_true (hway a ha).2
    rw [hspecifier]
    exact (partsOf_ofRelative hkept hne).trans (hfilter.trans hall)
  refine ⟨hmarked, ?_⟩
  have hjoin : ((ofText start).absolutePath cwd).join (ofText specifier)
      = ⟨1, s ++ Path.relative t s⟩ := by
    rw [Path.join, isAbsolute, hmarked.slashes, hparts]
    rfl
  rw [hjoin]
  exact settle_append_relative (not_mem_settle _) (not_mem_settle _)

/-- A target outside of the working directory whose name starts with dots. -/
theorem absolute_join_relative_client :
    let cwd : List Text := ["work", "shop"]
    let target : Text := "../client//./..x"
    let start : Text := "src/gen/../models"
    (∀ a ∈ cwd, IsPlain a) ∧
      (∀ a ∈ (ofText target).absolute cwd, .char '\\' ∉ a ∧ a ≠ "node_modules") ∧
      relative cwd target start = "../../../client/..x" ∧
      (((ofText start).absolutePath cwd).join (ofText "../../../client/..x")).absolute cwd
        = (["work", "client", "..x"] : List Text) := by
  intro cwd target start
  have hcwd : ∀ a ∈ cwd, IsPlain a := by
    simp only [cwd, List.forall_mem_cons]
    exact ⟨⟨by decide, by decide, by decide, by decide⟩,
      ⟨by decide, by decide, by decide, by decide⟩, by simp⟩
  have htarget : ∀ a ∈ (ofText target).absolute cwd, .char '\\' ∉ a ∧ a ≠ "node_modules" := by
    decide +kernel
  have hrelative : relative cwd target start = "../../../client/..x" := by decide +kernel
  have hback := (absolute_join_relative hcwd start htarget).2
  rw [hrelative] at hback
  exact ⟨hcwd, htarget, hrelative, hback.trans (by decide +kernel)⟩

/-- The place itself is marked too. -/
example : relative ["work"] "src/." "./src" = "./." := by decide +kernel

end ValidatorGen.ModuleSpecifier
