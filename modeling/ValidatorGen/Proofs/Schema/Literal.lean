import ValidatorGen.Proofs.Schema.Comment
import ValidatorGen.Proofs.Schema.Line

/-!
# String literals in a schema source

The attributes of a field hold literals: defaults, names, comments.  What stands between their
quotes is not read, unless it is a column type or belongs to one.

* `stripComment_literal` — the scan for a comment passes a literal by;
* `attribute?_append_quote`, `attribute?_append_of_hasAttribute` — the column type of a field is the
  first one, in front of the literal or behind it;
* `ofSource_replace_literal` — so the content of a literal can be replaced.
-/

namespace ValidatorGen.Native

open Schema

/-! ## Quotes -/

/-- A text that no backslash at its end keeps from being followed by a quote. -/
def TakesQuote (s : Text) : Prop := quotes (s ++ [.char '"']) = quotes s + 1

instance (s : Text) : Decidable (TakesQuote s) :=
  inferInstanceAs (Decidable (quotes (s ++ [.char '"']) = quotes s + 1))

/-- The content of a literal: no quote in it ends the literal, and one behind it does. -/
def IsContent (x : Text) : Prop := quotes x = 0 ∧ TakesQuote x

instance (x : Text) : Decidable (IsContent x) :=
  inferInstanceAs (Decidable (quotes x = 0 ∧ TakesQuote x))

theorem takesQuote_cons {c : CodePoint} (hc : c ≠ .char '\\') {r : Text} :
    TakesQuote (c :: r) ↔ TakesQuote r := by
  unfold TakesQuote
  rw [List.cons_append, quotes_cons hc, quotes_cons hc]
  omega

/-- A text without quotes and backslashes is the content of a literal. -/
theorem isContent_of_plain {y : Text} (hquote : .char '"' ∉ y) (hslash : .char '\\' ∉ y) :
    IsContent y := by
  have hnone := quotes_append hquote hslash []
  rw [List.append_nil] at hnone
  have hone : quotes (y ++ [.char '"']) = 1 := quotes_append hquote hslash [.char '"']
  exact ⟨hnone, by rw [TakesQuote, hone, hnone]; rfl⟩

/-- What the scan keeps as a whole is kept in front of a quote, too. -/
theorem code_append_quote {q : Bool} {s : Text} (hs : code q s = s) (h : TakesQuote s) (t : Text) :
    code q (s ++ .char '"' :: t) = s ++ .char '"' :: code (!inStringBehind q s) t := by
  fun_induction code q s with
  | case1 q =>
    rw [List.nil_append, code_cons (by decide) fun hstart => absurd hstart.1 (by decide)]
    cases q <;> rfl
  | case2 q d r ih =>
    have hr : code q r = r := (List.cons.inj (List.cons.inj hs).2).2
    rw [List.cons_append, List.cons_append, code, ih hr h]
    rfl
  | case3 q d r hd hstart => cases hs
  | case4 q d r hd hstart ih =>
    by_cases hslash : d = .char '\\'
    · obtain rfl := eq_nil_of_takes_none hslash hd
      subst hslash
      exact absurd h (by decide)
    · have hnone : ¬ StartsComment q d (r ++ .char '"' :: t) :=
        not_startsComment_append (fun h => hstart (startsComment_iff.2 h)) (by rintro ⟨⟩)
      have hr : code (q != (d == .char '"')) r = r := (List.cons.inj hs).2
      rw [List.cons_append, code_cons hslash hnone, ih hr ((takesQuote_cons hslash).1 h),
        inStringBehind_cons hslash, List.cons_append]

/-- Inside a literal nothing starts a comment. -/
theorem code_content {x : Text} (h : quotes x = 0) : code true x = x := by
  fun_induction quotes x with
  | case1 => rfl
  | case2 d r ih => rw [code, ih h]
  | case3 d r hd ih =>
    obtain ⟨hr, hquote⟩ := Nat.add_eq_zero_iff.1 h
    by_cases hslash : d = .char '\\'
    · obtain rfl := eq_nil_of_takes_none hslash hd
      rw [hslash]
      rfl
    · have hne : (d == .char '"') = false :=
        beq_eq_false_iff_ne.2 fun hd => absurd ((if_pos hd).symm.trans hquote) (by decide)
      rw [code_cons hslash fun hstart => Bool.noConfusion hstart.2.1, hne, Bool.bne_false, ih hr]

/-- The scan passes a literal by. -/
theorem stripComment_literal {ahead x : Text} (hcode : stripComment ahead = ahead)
    (heven : Even (quotes ahead)) (hquote : TakesQuote ahead) (hx : IsContent x) (behind : Text) :
    stripComment (ahead ++ .char '"' :: (x ++ .char '"' :: behind))
      = ahead ++ .char '"' :: (x ++ .char '"' :: stripComment behind) := by
  have hinside : inStringBehind true x = true := by
    rw [inStringBehind, hx.1]
    rfl
  rw [stripComment, code_append_quote hcode hquote, inStringBehind_of_even heven, Bool.not_false,
    code_append_quote (code_content hx.1) hx.2, hinside, Bool.not_true, stripComment]

/-! ## Column types around a literal -/

/-- A text with a column type at its start. -/
def StartsAttribute (s : Text) : Prop :=
  ∃ c, Text.isWord c = true ∧ ("@db." ++ [c] : Text) <+: s

/-- A text with a column type in it. -/
def HasAttribute (s : Text) : Prop :=
  ∃ c, Text.isWord c = true ∧ ("@db." ++ [c] : Text) <:+: s

/-- A tag whose parameters do not end in the text. -/
def OpensParameters (s : Text) : Prop :=
  ∃ tag r, s = tag ++ .char '(' :: r ∧ IsWordText tag ∧ .char ')' ∉ r

/-- A text that ends inside the parameters of its first column type. -/
def InParameters (s : Text) : Prop :=
  ∃ (d r : Text), s = d ++ ("@db." ++ r) ∧ ¬ HasAttribute d ∧ OpensParameters r

theorem not_hasAttribute_nil : ¬ HasAttribute [] := by
  rintro ⟨c, -, h⟩
  cases List.infix_nil.1 h

theorem hasAttribute_cons {c : CodePoint} {s : Text} :
    HasAttribute (c :: s) ↔ StartsAttribute (c :: s) ∨ HasAttribute s := by
  simp only [HasAttribute, StartsAttribute, List.infix_cons_iff, and_or_left, exists_or]

theorem columnType?_eq_none_iff {s : Text} :
    columnType? s = none ↔ ∀ c ∈ s.head?, Text.isWord c = false := by
  cases s with
  | nil => simp [columnType?]
  | cons c s =>
    cases hc : Text.isWord c with
    | false => simp [columnType?, hc]
    | true =>
      have hsome : columnType? (c :: s) ≠ none := by
        simp only [columnType?, List.takeWhile_cons, hc, if_true, List.isEmpty_cons,
          Bool.false_eq_true, if_false]
        split
        · split_ifs <;> exact Option.some_ne_none _
        · exact Option.some_ne_none _
      simp [hsome, hc]

/-- A column type ends in front of a quote, except inside its parameters. -/
theorem columnType?_append_quote {s : Text} (h : ¬ OpensParameters s) (t : Text) :
    columnType? (s ++ .char '"' :: t) = columnType? s := by
  have hquote : Text.isWord (.char '"') = false := by decide
  simp only [columnType?, takeWhile_append_cons hquote, dropWhile_append_cons hquote]
  split_ifs with htag
  · rfl
  have hword : IsWordText (s.takeWhile Text.isWord) :=
    ⟨fun hnil => htag (List.isEmpty_iff.2 hnil), fun c hc => List.mem_takeWhile_imp hc⟩
  have hs : s.takeWhile Text.isWord ++ s.dropWhile Text.isWord = s :=
    List.takeWhile_append_dropWhile
  cases hrest : s.dropWhile Text.isWord with
  | nil => rfl
  | cons c r =>
    rw [hrest] at hs
    by_cases hc : c = .char '('
    · subst hc
      have hclosed : .char ')' ∈ r := by
        by_contra hopen
        exact h ⟨_, r, hs.symm, hword, hopen⟩
      simp only [List.cons_append]
      rw [takeWhile_append_of_mem hclosed (by decide)]
      simp [hclosed]
    · simp [hc]

/-- The column type at the start of a text. -/
def attributeAt? (s : Text) : Option Text := (Text.dropStart? "@db." s).bind columnType?

theorem attribute?_cons (c : CodePoint) (s : Text) :
    attribute? (c :: s) = (attributeAt? (c :: s)).or (attribute? s) := by
  rw [attribute?, ← attributeAt?]
  cases attributeAt? (c :: s) <;> rfl

theorem attributeAt?_eq_none_iff {s : Text} : attributeAt? s = none ↔ ¬ StartsAttribute s := by
  rw [attributeAt?, Option.bind_eq_none_iff]
  constructor
  · rintro h ⟨c, hc, r, rfl⟩
    have hnone := h (c :: r) (Text.dropStart?_eq_some.2 (by simp))
    exact absurd (columnType?_eq_none_iff.1 hnone c rfl) (by simp [hc])
  · intro h r hr
    rw [columnType?_eq_none_iff]
    intro c hc
    obtain ⟨u, rfl⟩ := List.head?_eq_some_iff.1 hc
    rw [Text.dropStart?_eq_some] at hr
    by_contra hword
    exact h ⟨c, eq_true_of_ne_false hword, u, by rw [hr, List.append_assoc]; rfl⟩

theorem attributeAt?_append_quote {s : Text}
    (h : ∀ r, Text.dropStart? "@db." s = some r → ¬ OpensParameters r) (t : Text) :
    attributeAt? (s ++ .char '"' :: t) = attributeAt? s := by
  rw [attributeAt?, Text.dropStart?_append_cons (by decide), attributeAt?]
  cases hs : Text.dropStart? "@db." s with
  | none => rfl
  | some r => exact columnType?_append_quote (h r hs) t

/-- A tag starts with a character of a word. -/
theorem OpensParameters.startsAttribute {r s : Text} (h : OpensParameters r)
    (hs : Text.dropStart? "@db." s = some r) : StartsAttribute s := by
  obtain ⟨tag, u, rfl, ⟨hne, hword⟩, -⟩ := h
  obtain ⟨c, tag, rfl⟩ := List.exists_cons_of_ne_nil hne
  refine ⟨c, hword c List.mem_cons_self, tag ++ .char '(' :: u, ?_⟩
  rw [Text.dropStart?_eq_some.1 hs, List.append_assoc]
  rfl

/-- Behind a text without a column type the search starts anew. -/
theorem attribute?_append_quote {s : Text} (h : ¬ HasAttribute s) (t : Text) :
    attribute? (s ++ .char '"' :: t) = attribute? t := by
  induction s with
  | nil => rfl
  | cons c s ih =>
    rw [hasAttribute_cons, not_or] at h
    have hat := attributeAt?_append_quote (fun r hr hopens => h.1 (hopens.startsAttribute hr)) t
    rw [List.cons_append, attribute?_cons, ih h.2, ← List.cons_append, hat,
      attributeAt?_eq_none_iff.2 h.1, Option.none_or]

theorem InParameters.cons {c : CodePoint} {s : Text} (hstart : ¬ StartsAttribute (c :: s))
    (h : InParameters s) : InParameters (c :: s) := by
  obtain ⟨d, r, rfl, hd, hr⟩ := h
  refine ⟨c :: d, r, rfl, ?_, hr⟩
  rw [hasAttribute_cons, not_or]
  refine ⟨?_, hd⟩
  rintro ⟨x, hx, hstarts⟩
  exact hstart ⟨x, hx, hstarts.trans (List.prefix_append (c :: d) _)⟩

/-- The first column type is the one that counts. -/
theorem attribute?_append_of_hasAttribute {s : Text} (h : HasAttribute s) (hp : ¬ InParameters s)
    (t : Text) : attribute? (s ++ .char '"' :: t) = attribute? s := by
  induction s with
  | nil => exact absurd h not_hasAttribute_nil
  | cons c s ih =>
    have hopens : ∀ r, Text.dropStart? "@db." (c :: s) = some r → ¬ OpensParameters r :=
      fun r hr hopens => hp ⟨[], r, (Text.dropStart?_eq_some.1 hr :), not_hasAttribute_nil, hopens⟩
    have hat := attributeAt?_append_quote hopens t
    rw [List.cons_append, attribute?_cons, attribute?_cons, ← List.cons_append, hat]
    -- where one starts it is the first; elsewhere the search goes on as in front of the quote
    by_cases hstart : StartsAttribute (c :: s)
    · obtain ⟨a, ha⟩ := Option.ne_none_iff_exists'.1 fun hnone =>
        attributeAt?_eq_none_iff.1 hnone hstart
      rw [ha, Option.some_or, Option.some_or]
    · rw [ih ((hasAttribute_cons.1 h).resolve_left hstart) fun h => hp (h.cons hstart)]

theorem HasAttribute.isInfix {s : Text} (h : HasAttribute s) : ("@db." : Text) <:+: s := by
  obtain ⟨c, -, h⟩ := h
  exact (List.prefix_append _ _).isInfix.trans h

theorem InParameters.hasAttribute {s : Text} (h : InParameters s) : HasAttribute s := by
  obtain ⟨d, r, rfl, -, hr⟩ := h
  obtain ⟨c, hc, hstarts⟩ := hr.startsAttribute (Text.dropStart?_eq_some.2 rfl)
  exact ⟨c, hc, hstarts.isInfix.trans (List.suffix_append d _).isInfix⟩

/-! ## Field lines -/

/-- The place of a literal in the attributes of a field line: what stands around its quotes. -/
structure LiteralPlace where
  indent : Text := []
  name : Text
  gap : Text := " "
  ahead : Text
  behind : Text
  isBlankText_indent : Text.isBlankText indent = true := by decide
  isWordText_name : IsWordText name := by decide
  isBlankText_gap : Text.isBlankText gap = true := by decide
  gap_ne_nil : gap ≠ [] := by decide
  ahead_head : ∀ c ∈ ahead.head?, Text.isBlank c = false := by decide
  stripComment_ahead : stripComment ahead = ahead := by decide
  even_quotes_ahead : Even (quotes ahead) := by decide
  takesQuote_ahead : TakesQuote ahead := by decide

namespace LiteralPlace

variable (p : LiteralPlace)

/-- The attributes, up to what stands behind the literal. -/
def attributes (content behind : Text) : Text :=
  p.ahead ++ .char '"' :: (content ++ .char '"' :: behind)

/-- The field line, for the content of the literal. -/
def line (content : Text) : Text :=
  p.indent ++ (p.name ++ (p.gap ++ p.attributes content p.behind))

theorem mem_line {x y : Text} {c : CodePoint} (h : c ∈ p.line y) : c ∈ p.line x ∨ c ∈ y := by
  simp only [line, attributes, List.mem_append, List.mem_cons] at h ⊢
  tauto

theorem exists_attributes (x behind : Text) :
    ∃ c r, Text.isBlank c = false ∧ p.attributes x behind = c :: r := by
  cases hahead : p.ahead with
  | nil => exact ⟨.char '"', x ++ .char '"' :: behind, by decide, by rw [attributes, hahead]; rfl⟩
  | cons c r =>
    exact ⟨c, r ++ .char '"' :: (x ++ .char '"' :: behind), p.ahead_head c (by rw [hahead]; rfl),
      by rw [attributes, hahead, List.cons_append]⟩

/-- Up to the attributes there are only a word and blanks. -/
theorem isBlank_or_isWord {c : CodePoint} (h : c ∈ p.indent ++ (p.name ++ p.gap)) :
    Text.isBlank c = true ∨ Text.isWord c = true := by
  rcases List.mem_append.1 h with h | h
  · exact .inl (List.all_eq_true.1 p.isBlankText_indent c h)
  · rcases List.mem_append.1 h with h | h
    · exact .inr (p.isWordText_name.2 c h)
    · exact .inl (List.all_eq_true.1 p.isBlankText_gap c h)

theorem stripComment_line {x : Text} (hx : IsContent x) :
    stripComment (p.line x)
      = p.indent ++ (p.name ++ (p.gap ++ p.attributes x (stripComment p.behind))) := by
  have hbare : ∀ c ∈ p.indent ++ (p.name ++ p.gap), isBare c = true := fun c hc =>
    (p.isBlank_or_isWord hc).elim isBare_of_isBlank isBare_of_isWord
  have hlast : (p.indent ++ (p.name ++ p.gap)).getLast? ≠ some (.char '\\') := fun h =>
    absurd (p.isBlank_or_isWord (List.mem_of_getLast? h)) (by decide)
  have hfront := code_append (t := p.attributes x p.behind) hbare (.inr hlast)
  have hliteral : code false (p.attributes x p.behind) = p.attributes x (stripComment p.behind) :=
    stripComment_literal p.stripComment_ahead p.even_quotes_ahead p.takesQuote_ahead hx p.behind
  rw [hliteral, List.append_assoc, List.append_assoc, List.append_assoc, List.append_assoc]
    at hfront
  exact hfront

/-- What is read of the line. -/
theorem trim_stripComment_line {x : Text} (hx : IsContent x) :
    Text.trim (stripComment (p.line x))
      = p.name ++ (p.gap ++ p.attributes x (Text.trimEnd (stripComment p.behind))) := by
  have hend := Text.trimEnd_append_cons (c := .char '"') (by decide)
    (p.name ++ (p.gap ++ (p.ahead ++ .char '"' :: x))) (stripComment p.behind)
  simp only [List.append_assoc, List.cons_append] at hend
  rw [p.stripComment_line hx, Text.trim,
    trimStart_append_isWordText p.isBlankText_indent p.isWordText_name]
  exact hend

/-- A field does not end its block. -/
theorem closesBlock_line {x : Text} (hx : IsContent x) : closesBlock (p.line x) = false := by
  obtain ⟨w, ws, hname⟩ := List.exists_cons_of_ne_nil p.isWordText_name.1
  have hword : Text.isWord w = true := p.isWordText_name.2 w (hname ▸ List.mem_cons_self)
  rw [closesBlock, p.trim_stripComment_line hx, hname, beq_eq_false_iff_ne]
  intro h
  rw [Option.some.inj h] at hword
  exact absurd hword (by decide)

theorem hint?_line {x : Text} (hx : IsContent x) :
    hint? (p.line x)
      = (attribute? (p.attributes x (Text.trimEnd (stripComment p.behind)))).map (p.name, ·) := by
  obtain ⟨c, r, hc, hattributes⟩ := p.exists_attributes x (Text.trimEnd (stripComment p.behind))
  have hfield := fieldLine?_append (r := r) p.isWordText_name p.isBlankText_gap p.gap_ne_nil hc
  rw [hint?, p.trim_stripComment_line hx, hattributes, hfield]
  cases ht : attribute? (c :: r) with
  | none => simp [ht]
  | some t => simp [ht]

/-- Outside of parameters, the content of a literal does not matter behind a column type, nor if
there is none in it. -/
theorem attribute?_attributes {x y : Text} (hp : ¬ InParameters p.ahead)
    (h : HasAttribute p.ahead ∨ ¬ HasAttribute x ∧ ¬ HasAttribute y) (behind : Text) :
    attribute? (p.attributes y behind) = attribute? (p.attributes x behind) := by
  unfold attributes
  by_cases hahead : HasAttribute p.ahead
  · rw [attribute?_append_of_hasAttribute hahead hp, attribute?_append_of_hasAttribute hahead hp]
  · obtain ⟨hx, hy⟩ := h.resolve_left hahead
    rw [attribute?_append_quote hahead, attribute?_append_quote hahead, attribute?_append_quote hx,
      attribute?_append_quote hy]

end LiteralPlace

/-! ## Sources -/

/-- In a source, a literal on a field line of a block, and plain text for its content. -/
structure IsReplacement (front : Text) (p : LiteralPlace) (back x y : Text) : Prop where
  isLine : Text.IsLine front (p.line x) back
  inBlock : endsInside (Text.lines front) = true
  isContent : IsContent x
  noQuote : .char '"' ∉ y
  noBackslash : .char '\\' ∉ y
  onOneLine : ∀ c ∈ y, Text.isBoundary c = false

/-- **Literals** are passed by: the content of one that stands outside of parameters can be
replaced, if the line has a column type in front of it or neither content holds one. -/
theorem ofSource_replace_literal {front back x y : Text} {p : LiteralPlace}
    (h : IsReplacement front p back x y) (hp : ¬ InParameters p.ahead)
    (ha : HasAttribute p.ahead ∨ ¬ HasAttribute x ∧ ¬ HasAttribute y) :
    Hints.ofSource (front ++ p.line y ++ back) = Hints.ofSource (front ++ p.line x ++ back) := by
  have hy : IsContent y := isContent_of_plain h.noQuote h.noBackslash
  have hline : Text.IsLine front (p.line y) back :=
    ⟨fun c hc => (p.mem_line hc).elim (h.isLine.onOneLine c) (h.onOneLine c), h.isLine.front,
      h.isLine.back⟩
  rw [ofSource_line hline, ofSource_line h.isLine]
  refine ofLines_inside h.inBlock ?_ ?_ _
  · rw [p.closesBlock_line hy, p.closesBlock_line h.isContent]
  · rw [p.hint?_line hy, p.hint?_line h.isContent, p.attribute?_attributes hp ha]

/-- A default that looks like a comment, and one that looks like the end of the block. -/
theorem ofSource_replace_literal_label :
    let p : LiteralPlace :=
      { indent := "  ", name := "label", ahead := "String @default(",
        behind := ") @db.VarChar(10) // \"shown\"" }
    let front : Text := "model Item \x7b\n  id Int @id @db.Int\n"
    let back : Text := "\n\x7d\n"
    let x : Text := "// not a \\\"comment\\\""
    let y : Text := "\x7d @@map // @db"
    IsReplacement front p back x y ∧ ¬ InParameters p.ahead ∧
      (HasAttribute p.ahead ∨ ¬ HasAttribute x ∧ ¬ HasAttribute y) ∧
      (Hints.ofSource (front ++ p.line y ++ back)).get? "Item" "label" = some "VarChar(10)" := by
  intro p front back x y
  have hline : Text.IsLine front (p.line x) back :=
    ⟨by decide +kernel, by decide +kernel, by decide⟩
  have h : IsReplacement front p back x y :=
    ⟨hline, by decide +kernel, by decide +kernel, by decide +kernel, by decide +kernel,
      by decide +kernel⟩
  have hahead : ¬ HasAttribute p.ahead := fun h => absurd h.isInfix (by decide +kernel)
  have hx : ¬ HasAttribute x := fun h => absurd h.isInfix (by decide +kernel)
  have hy : ¬ HasAttribute y := fun h => absurd h.isInfix (by decide +kernel)
  have hp : ¬ InParameters p.ahead := fun h => hahead h.hasAttribute
  have hsource := ofSource_replace_literal h hp (.inr ⟨hx, hy⟩)
  refine ⟨h, hp, .inr ⟨hx, hy⟩, ?_⟩
  rw [hsource]
  decide +kernel

/-- The content of a literal matters inside the parameters of a column type, and where it holds a
column type itself. -/
theorem not_ofSource_replace_literal :
    let front : Text := "model A \x7b\n"
    let back : Text := "\n\x7d\n"
    let p : LiteralPlace := { name := "x", ahead := "String @db.VarChar(", behind := ")" }
    let q : LiteralPlace := { name := "x", ahead := "String @default(", behind := ")" }
    (IsReplacement front p back "a" "b" ∧
      Hints.ofSource (front ++ p.line "b" ++ back) ≠ Hints.ofSource (front ++ p.line "a" ++ back)) ∧
    (IsReplacement front q back "a" "@db.Text" ∧
      Hints.ofSource (front ++ q.line "@db.Text" ++ back)
        ≠ Hints.ofSource (front ++ q.line "a" ++ back)) := by
  intro front back p q
  have hp : Text.IsLine front (p.line "a") back :=
    ⟨by decide +kernel, by decide +kernel, by decide⟩
  have hq : Text.IsLine front (q.line "a") back :=
    ⟨by decide +kernel, by decide +kernel, by decide⟩
  refine ⟨⟨⟨hp, ?_, ?_, ?_, ?_, ?_⟩, ?_⟩, ⟨⟨hq, ?_, ?_, ?_, ?_, ?_⟩, ?_⟩⟩ <;> decide +kernel

end ValidatorGen.Native
