import ValidatorGen.Proofs.Nesting.Calls
import ValidatorGen.Proofs.Text

/-!
# Splitting a chain of calls

A chain is written call by call, each behind a dot.  Arguments are plain characters, string
literals and groups between brackets, and these may stand in one another.

* `spanQuoted_append_quote` — a string literal goes up to its own quote;
* `exists_close?_append` — well-nested text is passed over, and the depth behind it is that in front;
* `call?_written` — one call is read as it is written;
* `splitChain_chain` — a chain is split into the calls that it is written from.
-/

namespace ValidatorGen.Directive

open Nesting

/-! ## Literals -/

/-- What may stand in a string literal between quotes `q`: the quote itself and the backslash only
behind a backslash. -/
inductive IsQuoted (q : CodePoint) : Text → Prop
  | nil : IsQuoted q []
  | char {c : CodePoint} {s : Text} (hq : c ≠ q) (hb : c ≠ .char '\\') (h : IsQuoted q s) :
      IsQuoted q (c :: s)
  | escape {c : CodePoint} {s : Text} (h : IsQuoted q s) : IsQuoted q (.char '\\' :: c :: s)

theorem spanQuoted_cons {q c : CodePoint} (hb : c ≠ .char '\\') (r : Text) :
    spanQuoted q (c :: r) =
      if c = q then ([c], r) else (c :: (spanQuoted q r).1, (spanQuoted q r).2) := by
  rw [spanQuoted]
  · exact fun h _ => hb h
  · exact fun _ _ h _ => hb h

/-- A string literal goes up to its own quote. -/
theorem spanQuoted_append_quote {q : CodePoint} (hq : isQuote q = true) {s : Text}
    (hs : IsQuoted q s) (r : Text) : spanQuoted q (s ++ q :: r) = (s ++ [q], r) := by
  induction hs with
  | nil => rw [List.nil_append, spanQuoted_cons (ne_backslash_of_isQuote hq), if_pos rfl]; rfl
  | char hc hb _ ih => rw [List.cons_append, spanQuoted_cons hb, if_neg hc, ih]; rfl
  | escape _ ih => rw [List.cons_append, List.cons_append, spanQuoted, ih]; rfl

/-! ## Arguments -/

/-- Plain characters, string literals, and groups between two brackets of one kind. -/
inductive IsWellNested : Text → Prop
  | nil : IsWellNested []
  | plain {c : CodePoint} {t : Text} (hc : isPlain c = true) (ht : IsWellNested t) :
      IsWellNested (c :: t)
  | literal {q : CodePoint} {s t : Text} (hq : isQuote q = true) (hs : IsQuoted q s)
      (ht : IsWellNested t) : IsWellNested (q :: (s ++ q :: t))
  | group {o x : CodePoint} {s t : Text} (hox : sameKind o x = true) (hs : IsWellNested s)
      (ht : IsWellNested t) : IsWellNested (o :: (s ++ x :: t))

theorem IsWellNested.plain_append {s t : Text} (hs : s.all isPlain = true) (ht : IsWellNested t) :
    IsWellNested (s ++ t) := by
  induction s with
  | nil => exact ht
  | cons c s ih =>
    obtain ⟨hc, hs⟩ := (Bool.and_eq_true _ _).mp hs
    exact .plain hc (ih hs)

/-- What is read in front of the rest that is still to be split. -/
def passed (s : Text) (p : Text × Text) : Text × Text := (s ++ p.1, p.2)

theorem map_passed (s t : Text) (o : Option (Text × Text)) :
    (o.map (passed t)).map (passed s) = o.map (passed (s ++ t)) := by
  rw [Option.map_map]
  congr 1
  funext p
  exact Prod.ext (List.append_assoc s t p.1).symm rfl

section Steps

variable (d : Nat) (b : CodePoint) {c : CodePoint} (r : Text)

theorem close?_of_isPlain (hc : isPlain c = true) : close? d b (c :: r)
    = (close? d (if Text.isBlank c then b else c) r).map (passed [c]) := by
  simp only [isPlain, Bool.not_eq_true', Bool.or_eq_false_iff, decide_eq_false_iff_not] at hc
  obtain ⟨⟨⟨hq, hs⟩, ho⟩, hx⟩ := hc
  rw [close?.eq_def]
  simp only [hq, hs, ho, hx, false_and, if_false, Bool.false_eq_true]
  rfl

theorem close?_of_isQuote (hc : isQuote c = true) : close? d b (c :: r)
    = (close? d c (spanQuoted c r).2).map (passed (c :: (spanQuoted c r).1)) := by
  rw [close?.eq_def]
  exact if_pos hc

theorem sameKind_cases {o x : CodePoint} (h : sameKind o x = true) :
    (o = .char '(' ∧ x = .char ')') ∨ (o = .char '[' ∧ x = .char ']')
      ∨ (o = .char '{' ∧ x = .char '}') := by
  simpa [sameKind, or_assoc] using h

theorem close?_opener {o x : CodePoint} (h : sameKind o x = true) :
    close? d b (o :: r) = (close? (d + 1) o r).map (passed [o]) := by
  rw [close?.eq_def]
  rcases sameKind_cases h with ⟨rfl, -⟩ | ⟨rfl, -⟩ | ⟨rfl, -⟩ <;> rfl

theorem close?_closer {o x : CodePoint} (h : sameKind o x = true) :
    close? (d + 1) b (x :: r) = (close? d x r).map (passed [x]) := by
  rw [close?.eq_def]
  rcases sameKind_cases h with ⟨-, rfl⟩ | ⟨-, rfl⟩ | ⟨-, rfl⟩ <;> rfl

end Steps

/-- Well-nested text is passed over, and the depth behind it is that in front.  The character that
the search looks back to for a regular expression need not be that in front: no slash comes before
the rest. -/
theorem exists_close?_append {t : Text} (h : IsWellNested t) (d : Nat) (b : CodePoint) (r : Text) :
    ∃ b', close? d b (t ++ r) = (close? d b' r).map (passed t) := by
  induction h generalizing d b r with
  | nil => exact ⟨b, Option.map_id'.symm⟩
  | plain hc _ ih =>
    obtain ⟨b', ih⟩ := ih d _ r
    exact ⟨b', by rw [List.cons_append, close?_of_isPlain d b _ hc, ih, map_passed]; rfl⟩
  | @literal q s t hq hs _ ih =>
    obtain ⟨b', ih⟩ := ih d q r
    refine ⟨b', ?_⟩
    rw [List.cons_append, List.append_assoc, List.cons_append, close?_of_isQuote d b _ hq,
      spanQuoted_append_quote hq hs, ih, map_passed, List.cons_append, List.append_assoc]
    rfl
  | @group o x s t hox _ _ ihs iht =>
    obtain ⟨bs, ihs⟩ := ihs (d + 1) o (x :: (t ++ r))
    obtain ⟨bt, iht⟩ := iht d x r
    refine ⟨bt, ?_⟩
    rw [List.cons_append, List.append_assoc, List.cons_append, close?_opener d b _ hox, ihs,
      close?_closer d bs _ hox, iht, map_passed, map_passed, map_passed, List.append_assoc,
      List.append_assoc]
    rfl

/-- The bracket that closes a call is the one behind its arguments. -/
theorem close?_append_closer {t : Text} (h : IsWellNested t) (b : CodePoint) (r : Text) :
    close? 0 b (t ++ .char ')' :: r) = some (t ++ [.char ')'], r) := by
  obtain ⟨b', hb⟩ := exists_close?_append h 0 b (.char ')' :: r)
  rw [hb, close?]
  rfl

/-! ## Names -/

/-- A character of a word in a dotted name. -/
def isNameLetter (c : CodePoint) : Bool := Text.isAlphanumeric c || c == '_' || c == '$'

/-- One or more words with dots between them. -/
def IsName (s : Text) : Prop :=
  ∃ ws, ws ≠ [] ∧ (∀ w ∈ ws, w ≠ [] ∧ w.all isNameLetter = true) ∧ s = Text.join "." ws

theorem isNameChar_of_isNameLetter {c : CodePoint} (h : isNameLetter c = true) :
    isNameChar c = true := by
  rw [isNameChar, ← isNameLetter, h, Bool.true_or]

/-- A name is made of its characters, and does not end in a dot. -/
theorem IsName.exists_eq_append {s : Text} (h : IsName s) :
    (∀ c ∈ s, isNameChar c = true) ∧ ∃ t c, s = t ++ [c] ∧ isNameLetter c = true := by
  obtain ⟨ws, hne, hws, rfl⟩ := h
  induction ws with
  | nil => exact absurd rfl hne
  | cons w ws ih =>
    obtain ⟨⟨hw, hall⟩, hws⟩ := List.forall_mem_cons.1 hws
    have hchars : ∀ c ∈ w, isNameChar c = true := fun c hc =>
      isNameChar_of_isNameLetter (List.all_eq_true.1 hall c hc)
    cases ws with
    | nil =>
      rw [Text.join, List.intercalate_singleton]
      exact ⟨hchars, w.dropLast, w.getLast hw, (List.dropLast_concat_getLast hw).symm,
        List.all_eq_true.1 hall _ (List.getLast_mem hw)⟩
    | cons v ws =>
      obtain ⟨hrest, t, c, ht, hc⟩ := ih (List.cons_ne_nil v ws) hws
      rw [Text.join_cons_cons]
      refine ⟨?_, w ++ ("." ++ t), c, ?_, hc⟩
      · rw [List.forall_mem_append, List.forall_mem_append]
        exact ⟨hchars, by decide, hrest⟩
      · rw [ht, List.append_assoc, List.append_assoc]

theorem IsName.dropDots_eq {s : Text} (h : IsName s) : dropDots s = s := by
  obtain ⟨-, t, c, rfl, hc⟩ := h.exists_eq_append
  have hdot : CodePoint.is '.' c = false := by
    rw [CodePoint.is, decide_eq_false_iff_not]
    rintro rfl
    exact absurd hc (by decide)
  rw [dropDots, List.reverse_concat, List.dropWhile_cons_of_neg (by simp [hdot]),
    List.reverse_cons, List.reverse_reverse]

/-! ## Chains -/

/-- A call as it is written: its name, and its arguments between brackets. -/
def written (c : Text × Text) : Text := c.1 ++ "(" ++ (c.2 ++ ")")

/-- The text of a chain. -/
def chain (cs : List (Text × Text)) : Text := cs.flatMap fun c => "." ++ written c

/-- One call is read as it is written. -/
theorem call?_written {n t : Text} (hn : IsName n) (ht : IsWellNested t) (r : Text) :
    call? (.char '.' :: (written (n, t) ++ r)) =
      some (⟨n, written (n, t)⟩, r.dropWhile Text.isBlank) := by
  have hrest : written (n, t) ++ r = n ++ .char '(' :: (t ++ .char ')' :: r) := by
    rw [written, List.append_assoc, List.append_assoc, List.append_assoc]
    rfl
  have hbracket : ∀ c ∈ (CodePoint.char '(' :: (t ++ .char ')' :: r)).head?,
      isNameChar c = false := by
    rintro c ⟨⟩
    decide
  obtain ⟨hchars, u, c, hc, -⟩ := hn.exists_eq_append
  have hne : n ≠ [] := by
    rw [hc]
    exact List.append_ne_nil_of_right_ne_nil u (List.cons_ne_nil c [])
  obtain ⟨w, ws, rfl⟩ := List.exists_cons_of_ne_nil hne
  rw [hrest, call?]
  simp only [takeWhile_append_stop hchars hbracket, dropWhile_append_stop hchars hbracket,
    hn.dropDots_eq, close?_append_closer ht]
  rfl

theorem calls_of_call? {s r : Text} {c : Call} (h : call? s = some (c, r)) :
    calls s = c :: calls r := by
  rw [calls]
  split
  · rename_i hnone
    rw [hnone] at h
    cases h
  · rename_i hsome
    rw [hsome] at h
    cases h
    rfl

theorem calls_chain {cs : List (Text × Text)} (h : ∀ c ∈ cs, IsName c.1 ∧ IsWellNested c.2) :
    calls (chain cs) = cs.map fun c => ⟨c.1, written c⟩ := by
  induction cs with
  | nil => rw [chain, List.flatMap_nil, calls]; rfl
  | cons c cs ih =>
    obtain ⟨⟨hn, ht⟩, hcs⟩ := List.forall_mem_cons.1 h
    have hcons : chain (c :: cs) = .char '.' :: (written c ++ chain cs) := by
      rw [chain, List.flatMap_cons, List.append_assoc]
      rfl
    -- the next call starts with its dot, so no blanks are dropped in front of it
    have hdrop : (chain cs).dropWhile Text.isBlank = chain cs := by
      cases cs <;> rfl
    have hcall := call?_written hn ht (chain cs)
    rw [hdrop] at hcall
    rw [hcons, calls_of_call? hcall, ih hcs, List.map_cons]

/-- A chain ends in a closing bracket. -/
theorem exists_chain_eq {cs : List (Text × Text)} (h : cs ≠ []) :
    ∃ s, chain cs = s ++ [.char ')'] := by
  obtain ⟨cs, c, rfl⟩ := (List.eq_nil_or_concat cs).resolve_left h
  refine ⟨chain cs ++ ("." ++ (c.1 ++ "(" ++ c.2)), ?_⟩
  rw [List.concat_eq_append, chain, List.flatMap_append, List.flatMap_singleton, written]
  simp only [List.append_assoc]
  rfl

theorem trim_chain (cs : List (Text × Text)) : Text.trim (chain cs) = chain cs := by
  by_cases h : cs = []
  · subst h
    rfl
  · obtain ⟨s, hs⟩ := exists_chain_eq h
    have hstart : Text.trimStart (chain cs) = chain cs := by
      cases cs with
      | nil => rfl
      | cons c cs => exact Text.trimStart_cons_of_not_isBlank (by decide)
    rw [Text.trim, hstart, hs, Text.trimEnd_append_of_not_isBlank (by decide)]

/-- **Writing a chain and splitting it.**  A chain is split into the calls that it is written
from. -/
theorem splitChain_chain {cs : List (Text × Text)}
    (h : ∀ c ∈ cs, IsName c.1 ∧ IsWellNested c.2) :
    splitChain (chain cs) = cs.map fun c => ⟨c.1, written c⟩ := by
  rw [splitChain, trim_chain, calls_chain h]

/-- A bracket and an escaped quote in a string, brackets in brackets, and a name with a dot. -/
theorem splitChain_chain_refine :
    let args : Text := "v => v[0], \x7b message: \"a)\\\"\" \x7d"
    let cs : List (Text × Text) := [("refine", args), ("iso.date", "")]
    chain cs = ".refine(v => v[0], \x7b message: \"a)\\\"\" \x7d).iso.date()" ∧
      (splitChain (chain cs)).map Call.name = [("refine" : Text), "iso.date"] := by
  intro args cs
  have hmessage : IsQuoted '"' "a)\\\"" :=
    .char (by decide) (by decide) (.char (by decide) (by decide) (.escape .nil))
  have hobject : IsWellNested " message: \"a)\\\"\" " :=
    .plain_append (s := " message: ") (by decide)
      (.literal (by decide) hmessage (.plain (by decide) .nil))
  have hargs : IsWellNested args :=
    .plain_append (s := "v => v") (by decide) (.group (by decide) (.plain (by decide) .nil)
      (.plain_append (s := ", ") (by decide) (.group (by decide) hobject .nil)))
  have hnames : IsName "refine" ∧ IsName "iso.date" :=
    ⟨⟨["refine"], by decide, by decide, rfl⟩, ⟨["iso", "date"], by decide, by decide, rfl⟩⟩
  have hcs : ∀ c ∈ cs, IsName c.1 ∧ IsWellNested c.2 := by
    rw [List.forall_mem_cons, List.forall_mem_singleton]
    exact ⟨⟨hnames.1, hargs⟩, hnames.2, .nil⟩
  refine ⟨by decide +kernel, ?_⟩
  rw [splitChain_chain hcs]
  rfl

end ValidatorGen.Directive
