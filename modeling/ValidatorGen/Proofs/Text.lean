import Mathlib.Data.List.DropRight
import Mathlib.Tactic.Common
import ValidatorGen.Text.Blank
import ValidatorGen.Text.Lines
import ValidatorGen.Text.Numeral
import ValidatorGen.Text.Split

/-!
# Cutting a text and putting it together

* `lines_unlines` — lines that line feeds end are the lines of their text;
* `lines_append_lineFeed` — texts on both sides of a line feed have their lines apart;
* `IsLine.lines_eq`, `IsLine.lines_nil` — the place of one line among those of a text;
* `isWord_eq_false_of_isBlank` — no character of a word is blank;
* `trimStart_append`, `trimEnd_append_cons` — trimming takes blanks and stops at other characters;
* `splitOn_append` — the first piece of a text;
* `splitOn_append_cons` — the pieces on both sides of a separator;
* `join_splitOn`, `splitOn_join` — cutting at a separator and joining with it undo each other.
-/

namespace ValidatorGen

/-! ## The longest start with a property -/

section Span

variable {α : Type*} {p : α → Bool} {s t : List α}

theorem takeWhile_append_stop (hs : ∀ a ∈ s, p a = true) (ht : ∀ a ∈ t.head?, p a = false) :
    (s ++ t).takeWhile p = s := by
  rw [List.takeWhile_append_of_pos hs]
  cases t with
  | nil => exact List.append_nil s
  | cons a t => rw [List.takeWhile_cons_of_neg (by simp [ht a rfl]), List.append_nil]

theorem dropWhile_append_stop (hs : ∀ a ∈ s, p a = true) (ht : ∀ a ∈ t.head?, p a = false) :
    (s ++ t).dropWhile p = t := by
  rw [List.dropWhile_append_of_pos hs]
  cases t with
  | nil => rfl
  | cons a t => exact List.dropWhile_cons_of_neg (by simp [ht a rfl])

theorem takeWhile_append_cons {a : α} (ha : p a = false) (s t : List α) :
    (s ++ a :: t).takeWhile p = s.takeWhile p := by
  rw [List.takeWhile_append]
  split_ifs with h
  · rw [List.takeWhile_cons_of_neg (by simp [ha]), List.append_nil,
      (List.takeWhile_prefix p).eq_of_length h]
  · rfl

theorem dropWhile_append_cons {a : α} (ha : p a = false) (s t : List α) :
    (s ++ a :: t).dropWhile p = s.dropWhile p ++ a :: t := by
  rw [List.dropWhile_append]
  split_ifs with h
  · rw [List.isEmpty_iff.1 h, List.dropWhile_cons_of_neg (by simp [ha]), List.nil_append]
  · rfl

/-- What follows the end of the longest start does not matter. -/
theorem takeWhile_append_of_mem {a : α} (hs : a ∈ s) (ha : p a = false) (t : List α) :
    (s ++ t).takeWhile p = s.takeWhile p := by
  obtain ⟨u, v, rfl⟩ := List.append_of_mem hs
  rw [List.append_assoc, List.cons_append, takeWhile_append_cons ha, takeWhile_append_cons ha]

end Span

namespace Text

/-! ## Numbers -/

theorem isDigit_of_mem_digitsIn {n : Nat} {c : CodePoint} (h : c ∈ digitsIn 10 n) :
    c.isDigit = true := by
  obtain ⟨d, hd, rfl⟩ := List.mem_map.1 h
  exact Nat.isDigit_of_mem_toDigits (by decide) (by decide) hd

/-! ## Words and blanks -/

/-- The numbers of the blank characters. -/
def blankNumbers : List Nat :=
  List.range' 0x09 5 ++ List.range' 0x1C 5 ++ List.range' 0x2000 11
    ++ [0x85, 0xA0, 0x1680, 0x2028, 0x2029, 0x202F, 0x205F, 0x3000]

theorem mem_blankNumbers {c : CodePoint} (h : isBlank c = true) : c.toNat ∈ blankNumbers := by
  simp only [isBlank, Bool.or_eq_true, Bool.and_eq_true, decide_eq_true_eq, beq_iff_eq] at h
  simp only [blankNumbers, List.mem_append, List.mem_range'_1, List.mem_cons, List.not_mem_nil]
  omega

theorem isWord_eq_false_of_isBlank {c : CodePoint} (h : isBlank c = true) : isWord c = false := by
  have hall : ∀ n ∈ blankNumbers, isWord (.ofNat n) = false := by decide +kernel
  rw [← c.ofNat_toNat]
  exact hall _ (mem_blankNumbers h)

theorem isBlank_eq_false_of_isWord {c : CodePoint} (h : isWord c = true) : isBlank c = false := by
  by_contra hc
  rw [isWord_eq_false_of_isBlank (eq_true_of_ne_false hc)] at h
  exact Bool.noConfusion h

theorem isBlank_of_isBoundary {c : CodePoint} (h : isBoundary c = true) : isBlank c = true := by
  simp only [isBoundary, isBlank, Bool.or_eq_true, Bool.and_eq_true, decide_eq_true_eq,
    beq_iff_eq] at h ⊢
  omega

/-! ## Trimming -/

theorem trimStart_append {b s : Text} (hb : isBlankText b = true) :
    trimStart (b ++ s) = trimStart s :=
  List.dropWhile_append_of_pos (List.all_eq_true.1 hb)

theorem trimStart_of_isBlankText {b : Text} (hb : isBlankText b = true) : trimStart b = [] := by
  rw [← List.append_nil b, trimStart_append hb, trimStart_nil]

theorem trimEnd_append {s b : Text} (hb : isBlankText b = true) : trimEnd (s ++ b) = trimEnd s := by
  unfold trimEnd
  rw [List.reverse_append, List.dropWhile_append_of_pos fun c hc =>
    List.all_eq_true.1 hb c (List.mem_reverse.1 hc)]

/-- Trimming stops at a character that is not blank. -/
theorem trimEnd_append_cons {c : CodePoint} (hc : isBlank c = false) (s t : Text) :
    trimEnd (s ++ c :: t) = s ++ c :: trimEnd t := by
  unfold trimEnd
  rw [List.reverse_append, List.reverse_cons, List.append_assoc, List.singleton_append,
    List.dropWhile_append]
  split_ifs with ht
  · rw [List.isEmpty_iff.1 ht, List.dropWhile_cons_of_neg (by simp [hc]), List.reverse_cons,
      List.reverse_reverse]
    rfl
  · rw [List.reverse_append, List.reverse_cons, List.reverse_reverse, List.append_assoc,
      List.singleton_append]

theorem trimEnd_prefix (s : Text) : trimEnd s <+: s := by
  have h := List.reverse_prefix.2 (s.reverse.dropWhile_suffix isBlank)
  rwa [List.reverse_reverse] at h

theorem trim_append {b s : Text} (hb : isBlankText b = true) : trim (b ++ s) = trim s := by
  rw [trim, trimStart_append hb, ← trim]

/-- Blanks at the end are trimmed away. -/
theorem trim_append_blank {b : Text} (hb : isBlankText b = true) (s : Text) :
    trim (s ++ b) = trim s := by
  have hstart : trimStart (s ++ b) = trimStart s ++ b ∨
      trimStart s = [] ∧ trimStart (s ++ b) = [] := by
    unfold trimStart
    rw [List.dropWhile_append]
    split_ifs with h
    · exact .inr ⟨List.isEmpty_iff.1 h, trimStart_of_isBlankText hb⟩
    · exact .inl rfl
  unfold trim
  rcases hstart with h | ⟨hs, h⟩
  · rw [h, trimEnd_append hb]
  · rw [hs, h]

/-- What starts with a character that is not blank is trimmed at its end alone. -/
theorem trimEnd_cons {c : CodePoint} (hc : isBlank c = false) (t : Text) :
    trimEnd (c :: t) = c :: trimEnd t :=
  trimEnd_append_cons hc [] t

theorem trimStart_trimStart (s : Text) : trimStart (trimStart s) = trimStart s :=
  List.dropWhile_idempotent isBlank s

theorem trimEnd_trimEnd (s : Text) : trimEnd (trimEnd s) = trimEnd s := by
  simp [trimEnd, List.dropWhile_idempotent]

theorem isBlank_of_trimStart_eq_cons {s t : Text} {c : CodePoint} (h : trimStart s = c :: t) :
    isBlank c = false := by
  have hhead := List.head?_dropWhile_not isBlank s
  rw [show s.dropWhile isBlank = c :: t from h] at hhead
  simpa using hhead

theorem trimStart_trim (s : Text) : trimStart (trim s) = trim s := by
  unfold trim
  cases h : trimStart s with
  | nil => rfl
  | cons c t =>
    have hc := isBlank_of_trimStart_eq_cons h
    rw [trimEnd_cons hc, trimStart_cons_of_not_isBlank hc]

theorem trim_suffix_trimEnd (s : Text) : trim s <:+ trimEnd s := by
  have hs : s.takeWhile isBlank ++ trimStart s = s := List.takeWhile_append_dropWhile
  unfold trim
  cases h : trimStart s with
  | nil => exact List.nil_suffix
  | cons c t =>
    have hc := isBlank_of_trimStart_eq_cons h
    rw [h] at hs
    rw [← hs, trimEnd_append_cons hc, trimEnd_cons hc]
    exact List.suffix_append _ _

/-- The end of a trimmed text is trimmed. -/
theorem trimEnd_of_suffix {s t : Text} (h : s <:+ t) (ht : trimEnd t = t) : trimEnd s = s := by
  obtain ⟨u, rfl⟩ := h
  rcases List.eq_nil_or_concat s with rfl | ⟨s, c, rfl⟩
  · rfl
  rw [List.concat_eq_append] at ht ⊢
  cases hc : isBlank c with
  | false => exact trimEnd_append_of_not_isBlank hc
  | true =>
    have hlen := List.IsPrefix.length_le <| trimEnd_prefix (u ++ s)
    rw [← List.append_assoc, trimEnd_append (by simp [isBlankText, hc])] at ht
    rw [ht, List.length_append, List.length_singleton] at hlen
    omega

/-- Trimming keeps a character that is not blank at the end. -/
theorem exists_trim_concat {c : CodePoint} (hc : isBlank c = false) (s : Text) :
    ∃ t, trim (s ++ [c]) = t ++ [c] := by
  have hstart : trimStart (s ++ [c]) = trimStart s ++ [c] := by
    unfold trimStart
    rw [List.dropWhile_append]
    split_ifs with hs
    · rw [List.isEmpty_iff.1 hs, List.dropWhile_cons_of_neg (by simp [hc])]
      rfl
    · rfl
  exact ⟨trimStart s, by rw [trim, hstart, trimEnd_append_of_not_isBlank hc]⟩

/-! ## Lines -/

/-- The text of some lines, each ended by a line feed. -/
def unlines (ls : List Text) : Text := ls.flatMap (· ++ "\n")

/-- The lines of a text with one more character in front of its first line. -/
def consLine (c : CodePoint) : List Text → List Text
  | [] => [[c]]
  | l :: ls => (c :: l) :: ls

theorem consLine_append (c : CodePoint) {ls : List Text} (h : ls ≠ []) (ks : List Text) :
    consLine c (ls ++ ks) = consLine c ls ++ ks := by
  obtain ⟨l, ls, rfl⟩ := List.exists_cons_of_ne_nil h
  rfl

theorem lines_cons {c : CodePoint} {s : Text}
    (h : c = .char '\r' → s.head? ≠ some (.char '\n')) :
    lines (c :: s) = if isBoundary c then [] :: lines s else consLine c (lines s) := by
  have hs : ∀ t, c = .char '\r' → s = .char '\n' :: t → False := by
    rintro t rfl rfl
    exact h rfl rfl
  rw [lines.eq_3 c s hs]
  rfl

theorem lines_ne_nil {s : Text} (h : s ≠ []) : lines s ≠ [] := by
  unfold lines
  split
  · exact absurd rfl h
  · exact List.cons_ne_nil _ _
  · split_ifs
    · exact List.cons_ne_nil _ _
    · split <;> exact List.cons_ne_nil _ _

theorem lines_lineFeed (s : Text) : lines (.char '\n' :: s) = [] :: lines s := by
  rw [lines_cons fun h => absurd h (by decide), if_pos (by decide)]

theorem lines_append {l : Text} (hl : ∀ c ∈ l, isBoundary c = false) (s : Text) :
    lines (l ++ .char '\n' :: s) = l :: lines s := by
  induction l with
  | nil => exact lines_lineFeed s
  | cons c l ih =>
    obtain ⟨hc, hl⟩ := List.forall_mem_cons.1 hl
    have hr : c ≠ .char '\r' := by
      rintro rfl
      exact absurd hc (by decide)
    rw [List.cons_append, lines_cons fun h => absurd h hr, hc, if_neg Bool.false_ne_true, ih hl]
    rfl

/-- A line feed behind the text belongs to its last line, which has no end yet, or a carriage return
at its end. -/
def takesLineFeed (s : Text) : Bool := s.getLast?.any fun c => !isBoundary c || c = '\r'

theorem takesLineFeed_cons_cons (c d : CodePoint) (s : Text) :
    takesLineFeed (c :: d :: s) = takesLineFeed (d :: s) := by
  unfold takesLineFeed
  rw [List.getLast?_cons_cons]

/-- A line feed ends the last line of the text in front of it, or else an empty line. -/
theorem lines_append_lineFeed (s t : Text) :
    lines (s ++ .char '\n' :: t)
      = lines s ++ ((if takesLineFeed s then [] else [[]]) ++ lines t) := by
  match s with
  | [] => exact lines_lineFeed t
  | [c] =>
    by_cases hr : c = .char '\r'
    · subst hr
      rfl
    · have hc : takesLineFeed [c] = !isBoundary c := by simp [takesLineFeed, hr]
      rw [List.singleton_append, lines_cons fun h => absurd h hr, lines_lineFeed, hc,
        lines_cons fun h => absurd h hr]
      cases isBoundary c <;> rfl
  | c :: d :: s =>
    by_cases hcd : c = .char '\r' ∧ d = .char '\n'
    · -- the two are one boundary, and what matters is the text behind them
      obtain ⟨rfl, rfl⟩ := hcd
      have htakes : takesLineFeed (.char '\n' :: s) = takesLineFeed s := by
        cases s with
        | nil => rfl
        | cons e s => exact takesLineFeed_cons_cons _ e s
      rw [takesLineFeed_cons_cons, htakes, List.cons_append, List.cons_append, lines, lines,
        lines_append_lineFeed s t, List.cons_append]
    · have hhead : ∀ u, c = .char '\r' → (d :: u).head? ≠ some (.char '\n') := fun u hc hd =>
        hcd ⟨hc, Option.some.inj hd⟩
      have ih := lines_append_lineFeed (d :: s) t
      rw [List.cons_append, List.cons_append, lines_cons (hhead _), ← List.cons_append, ih,
        lines_cons (hhead s), takesLineFeed_cons_cons]
      split_ifs
      · rfl
      · rfl
      · exact consLine_append c (lines_ne_nil (List.cons_ne_nil d s)) _
      · exact consLine_append c (lines_ne_nil (List.cons_ne_nil d s)) _

theorem lines_unlines {ls : List Text} (h : ∀ l ∈ ls, ∀ c ∈ l, isBoundary c = false) :
    lines (unlines ls) = ls := by
  induction ls with
  | nil => rfl
  | cons l ls ih =>
    obtain ⟨hl, hls⟩ := List.forall_mem_cons.1 h
    have hcons : unlines (l :: ls) = l ++ .char '\n' :: unlines ls := by
      rw [unlines, List.flatMap_cons, List.append_assoc]
      rfl
    rw [hcons, lines_append hl, ih hls]

/-- No line holds the end of one. -/
theorem isBoundary_of_mem_lines {s l : Text} (hl : l ∈ lines s) {c : CodePoint} (hc : c ∈ l) :
    isBoundary c = false := by
  fun_induction lines s generalizing l with
  | case1 => simp at hl
  | case2 r ih =>
    rcases List.mem_cons.1 hl with rfl | hl
    · simp at hc
    · exact ih hl hc
  | case3 d r hr hd ih =>
    rcases List.mem_cons.1 hl with rfl | hl
    · simp at hc
    · exact ih hl hc
  | case4 d r hr hd hnil ih =>
    obtain rfl : l = [d] := by simpa using hl
    obtain rfl : c = d := by simpa using hc
    simpa using hd
  | case5 d r hr hd k ks hks ih =>
    rw [hks] at ih
    rcases List.mem_cons.1 hl with rfl | hl
    · rcases List.mem_cons.1 hc with rfl | hc
      · simpa using hd
      · exact ih List.mem_cons_self hc
    · exact ih (List.mem_cons_of_mem _ hl) hc

/-! ## One line of a text -/

/-- The lines behind the end of a line. -/
def linesBehind : Text → List Text
  | [] => []
  | .char '\r' :: .char '\n' :: s => lines s
  | _ :: s => lines s

/-- A text between the ends of two lines, or at either end of the whole text. -/
structure IsLine (front l back : Text) : Prop where
  onOneLine : ∀ c ∈ l, isBoundary c = false
  front : ∀ c ∈ front.getLast?, isBoundary c = true
  back : ∀ c ∈ back.head?, isBoundary c = true

/-- Behind the end of a line the lines start anew; a line feed behind a carriage return would only
complete it. -/
theorem lines_append_of_boundary {s t : Text} (hs : ∀ c ∈ s.getLast?, isBoundary c = true)
    (hpair : s.getLast? = some (.char '\r') → t.head? ≠ some (.char '\n')) :
    lines (s ++ t) = lines s ++ lines t := by
  match s with
  | [] => rfl
  | [c] =>
    have hc : isBoundary c = true := hs c rfl
    have hr : ∀ u : Text, (c = .char '\r' → u.head? ≠ some (.char '\n')) →
        lines (c :: u) = [] :: lines u := fun u hu => by rw [lines_cons hu, if_pos hc]
    rw [List.singleton_append, hr t fun h => hpair (by rw [h]; rfl), hr [] fun _ h => by cases h]
    rfl
  | c :: d :: s =>
    rw [List.getLast?_cons_cons] at hs hpair
    by_cases hcd : c = .char '\r' ∧ d = .char '\n'
    · obtain ⟨rfl, rfl⟩ := hcd
      have hlast : ∀ x ∈ s.getLast?, (CodePoint.char '\n' :: s).getLast? = some x := by
        intro x hx
        rw [List.getLast?_cons, hx]
        rfl
      have ih := lines_append_of_boundary (s := s) (t := t) (fun x hx => hs x (hlast x hx))
        fun h => hpair (hlast _ h)
      rw [List.cons_append, List.cons_append, lines, lines, ih, List.cons_append]
    · have hhead : ∀ u, c = .char '\r' → (d :: u).head? ≠ some (.char '\n') := fun u hc hd =>
        hcd ⟨hc, Option.some.inj hd⟩
      have ih := lines_append_of_boundary hs hpair
      rw [List.cons_append, List.cons_append, lines_cons (hhead _), ← List.cons_append, ih,
        lines_cons (hhead s)]
      split_ifs
      · rfl
      · exact consLine_append c (lines_ne_nil (List.cons_ne_nil d s)) _

/-- The first line of a text. -/
theorem lines_append_of_head {l t : Text} (hl : ∀ c ∈ l, isBoundary c = false)
    (ht : ∀ c ∈ t.head?, isBoundary c = true) (hne : l ≠ [] ∨ t ≠ []) :
    lines (l ++ t) = l :: linesBehind t := by
  induction l with
  | nil =>
    rw [List.nil_append]
    unfold linesBehind
    split
    · exact absurd rfl (hne.resolve_left fun h => h rfl)
    · rw [lines]
    · rename_i c s hpair
      rw [lines.eq_3 c s hpair, ht c rfl, if_pos rfl]
  | cons c l ih =>
    obtain ⟨hc, hl⟩ := List.forall_mem_cons.1 hl
    have hr : c ≠ .char '\r' := by
      rintro rfl
      exact absurd hc (by decide)
    rw [List.cons_append, lines_cons fun h => absurd h hr, hc, if_neg Bool.false_ne_true]
    by_cases hrest : l ≠ [] ∨ t ≠ []
    · rw [ih hl hrest]
      rfl
    · obtain ⟨rfl, rfl⟩ := not_or.1 hrest |>.imp not_not.1 not_not.1
      rfl

/-- A line that is not empty has its place between the lines in front of it and behind it. -/
theorem IsLine.lines_eq {front l back : Text} (h : IsLine front l back) (hl : l ≠ []) :
    lines (front ++ l ++ back) = lines front ++ l :: linesBehind back := by
  have hpair : (l ++ back).head? ≠ some (.char '\n') := by
    obtain ⟨c, r, rfl⟩ := List.exists_cons_of_ne_nil hl
    intro hc
    have hboundary := h.onOneLine c List.mem_cons_self
    rw [Option.some.inj hc] at hboundary
    exact absurd hboundary (by decide)
  rw [List.append_assoc, lines_append_of_boundary h.front fun _ => hpair,
    lines_append_of_head h.onOneLine h.back (.inl hl)]

/-- Where nothing stands between the ends of two lines there is an empty line, or none. -/
theorem IsLine.lines_nil {front back : Text} (h : IsLine front [] back) :
    lines (front ++ back) = lines front ++ [] :: linesBehind back ∨
      lines (front ++ back) = lines front ++ linesBehind back := by
  cases back with
  | nil =>
    rw [List.append_nil]
    exact .inr (List.append_nil _).symm
  | cons c back =>
    by_cases hpair : front.getLast? = some (.char '\r') ∧ c = .char '\n'
    · obtain ⟨hfront, rfl⟩ := hpair
      have htakes : takesLineFeed front = true := by
        rw [takesLineFeed, hfront]
        rfl
      rw [lines_append_lineFeed, htakes]
      exact .inr rfl
    · have hhead : front.getLast? = some (.char '\r') → (c :: back).head? ≠ some (.char '\n') :=
        fun hfront hc => hpair ⟨hfront, Option.some.inj hc⟩
      have hline := lines_append_of_head (l := []) (by simp) h.back (.inr (List.cons_ne_nil c back))
      rw [lines_append_of_boundary h.front hhead]
      exact .inl (congrArg _ hline)

/-! ## Pieces -/

theorem join_cons (sep t : Text) (ts : List Text) :
    join sep (t :: ts) = t ++ ts.flatMap (sep ++ ·) := by
  induction ts generalizing t with
  | nil => rw [join_singleton, List.flatMap_nil, List.append_nil]
  | cons u ts ih => rw [join_cons_cons, ih, List.flatMap_cons, List.append_assoc]

theorem exists_splitOn (c : CodePoint) (s : Text) :
    ∃ p ps, splitOn c s = p :: ps ∧ p <+: s := by
  induction s with
  | nil => exact ⟨[], [], rfl, List.prefix_rfl⟩
  | cons a s ih =>
    rw [splitOn]
    split_ifs
    · exact ⟨[], _, rfl, List.nil_prefix⟩
    · obtain ⟨p, ps, hs, hp⟩ := ih
      rw [hs]
      exact ⟨a :: p, ps, rfl, List.cons_prefix_cons.2 ⟨rfl, hp⟩⟩

/-- The first piece of a text. -/
theorem splitOn_append {c : CodePoint} {l s p : Text} {ps : List Text} (h : c ∉ l)
    (hs : splitOn c s = p :: ps) : splitOn c (l ++ s) = (l ++ p) :: ps := by
  induction l with
  | nil => exact hs
  | cons a l ih =>
    rw [List.mem_cons, not_or] at h
    rw [List.cons_append, splitOn, if_neg fun e => h.1 e.symm, ih h.2]
    rfl

theorem splitOn_of_not_mem {c : CodePoint} {s : Text} (h : c ∉ s) : splitOn c s = [s] := by
  have hpieces := splitOn_append h (s := []) rfl
  rwa [List.append_nil] at hpieces

/-- A piece is made of the characters of the text, the separator apart. -/
theorem of_mem_splitOn {c a : CodePoint} {s p : Text} (hp : p ∈ splitOn c s) (ha : a ∈ p) :
    a ∈ s ∧ a ≠ c := by
  induction s generalizing p with
  | nil => simp_all [splitOn]
  | cons b s ih =>
    rw [splitOn] at hp
    split_ifs at hp with hb
    · rcases List.mem_cons.1 hp with rfl | hp
      · simp at ha
      · have := ih hp ha
        exact ⟨List.mem_cons_of_mem b this.1, this.2⟩
    · obtain ⟨q, qs, hs, -⟩ := exists_splitOn c s
      rw [hs] at hp ih
      rcases List.mem_cons.1 hp with rfl | hp
      · rcases List.mem_cons.1 ha with rfl | ha
        · exact ⟨List.mem_cons_self, hb⟩
        · have := ih List.mem_cons_self ha
          exact ⟨List.mem_cons_of_mem b this.1, this.2⟩
      · have := ih (List.mem_cons_of_mem q hp) ha
        exact ⟨List.mem_cons_of_mem b this.1, this.2⟩

theorem splitOn_eq (c : CodePoint) (s : Text) : splitOn c s = List.splitOn c s := by
  unfold List.splitOn
  induction s with
  | nil => rfl
  | cons a s ih =>
    rw [splitOn, List.splitOnP_cons_eq_if_modifyHead, ← ih]
    obtain ⟨p, ps, hs, -⟩ := exists_splitOn c s
    by_cases ha : a = c <;> simp [ha, hs]

theorem join_splitOn (c : Char) (s : Text) : join [.char c] (splitOn c s) = s := by
  rw [splitOn_eq]
  exact List.intercalate_splitOn _

theorem splitOn_join {c : Char} {ts : List Text} (h : ∀ t ∈ ts, .char c ∉ t) (hne : ts ≠ []) :
    splitOn c (join [.char c] ts) = ts := by
  rw [splitOn_eq]
  exact List.splitOn_intercalate _ h hne

/-- The pieces on both sides of a separator. -/
theorem splitOn_append_cons (c : CodePoint) (s t : Text) :
    splitOn c (s ++ c :: t) = splitOn c s ++ splitOn c t := by
  induction s with
  | nil => exact if_pos rfl
  | cons a s ih =>
    rw [List.cons_append, splitOn, splitOn, ih]
    split_ifs
    · rfl
    · obtain ⟨p, ps, hs, -⟩ := exists_splitOn c s
      rw [hs]
      rfl

/-- What stands between two separators is a piece. -/
theorem mem_splitOn_of_infix {c : CodePoint} {p s : Text} (hp : c ∉ p)
    (h : c :: (p ++ [c]) <:+: s) : p ∈ splitOn c s := by
  obtain ⟨u, v, rfl⟩ := h
  have hsplit : splitOn c (u ++ c :: (p ++ [c]) ++ v)
      = splitOn c u ++ (splitOn c p ++ splitOn c v) := by
    rw [List.append_assoc, List.cons_append, List.append_assoc, splitOn_append_cons,
      List.singleton_append, splitOn_append_cons]
  rw [hsplit, splitOn_of_not_mem hp]
  exact List.mem_append_right _ List.mem_cons_self

theorem dropStart?_eq_none_of_not_prefix {p s : Text} (h : ¬ p <+: s) : dropStart? p s = none := by
  rw [Option.eq_none_iff_forall_not_mem]
  exact fun r hr => h ⟨r, (dropStart?_eq_some.1 hr).symm⟩

theorem dropStart?_append_cons {p : Text} {c : CodePoint} (hc : c ∉ p) (s t : Text) :
    dropStart? p (s ++ c :: t) = (dropStart? p s).map (· ++ c :: t) := by
  induction p generalizing s with
  | nil => rfl
  | cons a p ih =>
    rw [List.mem_cons, not_or] at hc
    cases s with
    | nil => exact if_neg (Ne.symm hc.1)
    | cons b s =>
      rw [List.cons_append, dropStart?, dropStart?, ih hc.2]
      split_ifs <;> rfl

theorem behind?_eq_none {p s : Text} (h : ¬ p <:+: s) : behind? p s = none := by
  induction s with
  | nil => exact dropStart?_eq_none_of_not_prefix fun hp => h hp.isInfix
  | cons c s ih =>
    rw [behind?, dropStart?_eq_none_of_not_prefix fun hp => h hp.isInfix]
    exact ih fun hp => h (hp.trans (List.suffix_cons c s).isInfix)

theorem mem_replace {a d : CodePoint} {old new s : Text} (h : d ∈ replace a old new s) :
    d ∈ s ∨ d ∈ new := by
  fun_induction replace a old new s with
  | case1 => exact .inl h
  | case2 r hr ih =>
    rcases List.mem_cons.1 h with rfl | h
    · exact .inl List.mem_cons_self
    · exact (ih h).imp_left (List.mem_cons_of_mem _)
  | case3 r u hu _ ih =>
    rcases List.mem_append.1 h with h | h
    · exact .inr h
    · refine (ih h).imp_left fun h => List.mem_cons_of_mem _ ?_
      rw [dropStart?_eq_some.1 hu]
      exact List.mem_append_right _ h
  | case4 c r hc ih =>
    rcases List.mem_cons.1 h with rfl | h
    · exact .inl List.mem_cons_self
    · exact (ih h).imp_left (List.mem_cons_of_mem _)

end Text

end ValidatorGen
