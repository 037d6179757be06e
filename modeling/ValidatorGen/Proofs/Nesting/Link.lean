import ValidatorGen.Proofs.Expression
import ValidatorGen.Proofs.Nesting.Calls

/-!
# Links of a chain

A link closes the brackets that it opens and ends its literals, kinds apart, and reads alike
wherever it stands.  A chain of links is nested exactly when its base and all its links are.

* `IsCall.link` — every call of a documentation is a link;
* `Link.read_of_isNested`, `Link.read_of_not_isNested` — a link reads through under any brackets,
  or nowhere;
* `isNested_chain_iff` — a chain is nested when its base and its links are.
-/

namespace ValidatorGen.Nesting

open Directive Expression

variable {fits : CodePoint → CodePoint → Bool}

structure Link (s : Text) : Prop where
  closes : ∃ b, read anyKind .start s = some ⟨.code b, []⟩
  anywhere : ∀ (fits : CodePoint → CodePoint → Bool) (b : CodePoint),
    read fits ⟨.code b, []⟩ s = read fits .start s

section

variable {s : Text}

theorem Link.read_eq (h : Link s) (b : CodePoint) (bs : List CodePoint) :
    read fits ⟨.code b, bs⟩ s = (read fits .start s).map (·.over bs) := by
  obtain ⟨b', hb'⟩ := h.closes
  have ha : read anyKind ⟨.code b, []⟩ s = some ⟨.code b', []⟩ := by rw [h.anywhere, hb']
  rw [← h.anywhere fits b]
  exact read_over ha bs

theorem Link.read_of_isNested (h : Link s) (hn : isNested s = true) :
    ∃ b', ∀ b bs, read sameKind ⟨.code b, bs⟩ s = some ⟨.code b', bs⟩ := by
  obtain ⟨b', hb'⟩ := isNested_iff.1 hn
  refine ⟨b', fun b bs => ?_⟩
  rw [h.read_eq, hb']
  rfl

theorem Link.read_of_not_isNested (h : Link s) (hn : isNested s = false) (b : CodePoint)
    (bs : List CodePoint) : read sameKind ⟨.code b, bs⟩ s = none := by
  rw [h.read_eq]
  cases hr : read sameKind .start s with
  | none => rfl
  | some r =>
    exfalso
    obtain ⟨b', hb'⟩ := h.closes
    have e : r = ⟨.code b', []⟩ := Option.some.inj ((read_anyKind hr).symm.trans hb')
    rw [isNested_iff.2 ⟨b', e ▸ hr⟩] at hn
    exact Bool.noConfusion hn

end

/-! ## Calls are links -/

theorem isPlain_of_isNameChar {c : CodePoint} (h : isNameChar c = true) : isPlain c = true :=
  isPlain_of_class h (by decide)

section Call

variable {raw args : Text}

/-- Behind its name a call reads alike wherever it stands. -/
theorem read_name (h : raw.all isNameChar = true) (b : CodePoint) (bs : List CodePoint)
    (t : Text) : read fits ⟨.code b, bs⟩ (raw ++ "(" ++ t) = read fits ⟨.code '(', '(' :: bs⟩ t := by
  obtain ⟨b', hr, -⟩ := read_of_isPlain fits
    (List.all_eq_true.2 fun c hc => isPlain_of_isNameChar (List.all_eq_true.1 h c hc)) b bs
  rw [List.append_assoc, read_append_of_eq hr]
  rfl

theorem step_closer {x : CodePoint} (h : isCloser x = true) (b o : CodePoint)
    (bs : List CodePoint) :
    step fits ⟨.code b, o :: bs⟩ x = if fits o x then some ⟨.code x, bs⟩ else none := by
  simp only [isCloser, Bool.or_eq_true, decide_eq_true_eq] at h
  rcases h with (rfl | rfl) | rfl <;> rfl

/-- Arguments read inside the bracket of their call as they do by themselves. -/
theorem read_args {b : CodePoint} (h : read anyKind .start args = some ⟨.code b, []⟩)
    (bs : List CodePoint) :
    read fits ⟨.code '(', '(' :: bs⟩ args = (read fits .start args).map (·.over ('(' :: bs)) :=
  read_over (r := .start) h ('(' :: bs)

theorem link_of_args {x b : CodePoint} (hraw : raw.all isNameChar = true) (hx : isCloser x = true)
    (ha : read anyKind .start args = some ⟨.code b, []⟩) : Link (raw ++ "(" ++ args ++ [x]) := by
  constructor
  · refine ⟨x, ?_⟩
    rw [List.append_assoc, Reader.start, read_name hraw, read_append, read_args ha, ha]
    show (step anyKind ⟨.code b, ['(']⟩ x).bind _ = _
    rw [step_closer hx]
    rfl
  · intro fits b'
    rw [List.append_assoc, Reader.start, read_name hraw, read_name hraw]

/-- A call whose arguments are nested. -/
def IsNestedCall (s : Text) : Prop :=
  ∃ raw args : Text, s = raw ++ "(" ++ args ++ ")" ∧ raw.all isNameChar = true
    ∧ isNested args = true

theorem IsNestedCall.isNested {s : Text} (h : IsNestedCall s) : isNested s = true := by
  obtain ⟨raw, args, rfl, hraw, ha⟩ := h
  obtain ⟨b, hb⟩ := isNested_iff.1 ha
  refine isNested_iff.2 ⟨')', ?_⟩
  rw [List.append_assoc, Reader.start, read_name hraw, read_append, read_args (read_anyKind hb), hb]
  rfl

theorem IsNestedCall.link {s : Text} (h : IsNestedCall s) : Link s := by
  obtain ⟨raw, args, rfl, hraw, ha⟩ := h
  obtain ⟨b, hb⟩ := isNested_iff.1 ha
  exact link_of_args (x := ')') hraw rfl (read_anyKind hb)

end Call

theorem IsCall.link {c : Call} {dots args : Text} {x : CodePoint} (h : IsCall c dots args x) :
    Link c.text := by
  obtain ⟨b, hb⟩ := h.args
  rw [h.text]
  exact link_of_args h.name h.closer hb

/-! ## Chains -/

theorem read_dot (b : CodePoint) (bs : List CodePoint) (t : Text) :
    read fits ⟨.code b, bs⟩ ("." ++ t) = read fits ⟨.code '.', bs⟩ t := rfl

/-- Nested links leave the brackets around them as they are. -/
theorem read_chainText {links : List Text} (hl : ∀ t ∈ links, Link t)
    (hn : ∀ t ∈ links, isNested t = true) (b : CodePoint) (bs : List CodePoint) :
    ∃ b', read sameKind ⟨.code b, bs⟩ (chainText links) = some ⟨.code b', bs⟩ := by
  induction links generalizing b with
  | nil => exact ⟨b, rfl⟩
  | cons t ts ih =>
    rw [List.forall_mem_cons] at hl hn
    obtain ⟨b₁, h₁⟩ := hl.1.read_of_isNested hn.1
    obtain ⟨b', h'⟩ := ih hl.2 hn.2 b₁
    refine ⟨b', ?_⟩
    rw [chainText_cons, read_dot, read_append_of_eq (h₁ _ _), h']

/-- A chain does not read past a link that is not nested. -/
theorem read_chainText_eq_none {links : List Text} (hl : ∀ t ∈ links, Link t)
    (hn : ∃ t ∈ links, isNested t = false) (b : CodePoint) (bs : List CodePoint) :
    read sameKind ⟨.code b, bs⟩ (chainText links) = none := by
  induction links generalizing b with
  | nil => simp at hn
  | cons t ts ih =>
    rw [List.forall_mem_cons] at hl
    rw [chainText_cons, read_dot]
    cases ht : isNested t with
    | false => exact read_append_of_eq_none (hl.1.read_of_not_isNested ht _ _) _
    | true =>
      obtain ⟨b₁, h₁⟩ := hl.1.read_of_isNested ht
      rw [read_append_of_eq (h₁ _ _)]
      refine ih hl.2 ?_ b₁
      obtain ⟨u, hu, hf⟩ := hn
      rcases List.mem_cons.1 hu with rfl | hu
      · exact absurd ht (by simp [hf])
      · exact ⟨u, hu, hf⟩

/-- Whether a chain is nested is seen at its base and at each of its links by itself; the base has
to end outside literals, whatever brackets it leaves open. -/
theorem isNested_chain_iff {base : Text} {links : List Text}
    (hb : ∃ b bs, read anyKind .start base = some ⟨.code b, bs⟩) (hl : ∀ t ∈ links, Link t) :
    isNested (base ++ chainText links) = true
      ↔ isNested base = true ∧ ∀ t ∈ links, isNested t = true := by
  constructor
  · intro h
    obtain ⟨b, h⟩ := isNested_iff.1 h
    rw [read_append] at h
    obtain ⟨r, h1, h2⟩ := Option.bind_eq_some_iff.1 h
    obtain ⟨b₀, bs, h0⟩ := hb
    have e : r = ⟨.code b₀, bs⟩ := Option.some.inj ((read_anyKind h1).symm.trans h0)
    subst e
    have hn : ∀ t ∈ links, isNested t = true := by
      intro t ht
      by_contra hf
      rw [read_chainText_eq_none hl ⟨t, ht, by simpa using hf⟩] at h2
      exact absurd h2 (by simp)
    obtain ⟨b', h'⟩ := read_chainText hl hn b₀ bs
    rw [h'] at h2
    cases h2
    exact ⟨isNested_iff.2 ⟨b₀, h1⟩, hn⟩
  · rintro ⟨h1, hn⟩
    obtain ⟨b, h1⟩ := isNested_iff.1 h1
    obtain ⟨b', h'⟩ := read_chainText hl hn b []
    refine isNested_iff.2 ⟨b', ?_⟩
    rw [read_append_of_eq h1, h']

end ValidatorGen.Nesting
