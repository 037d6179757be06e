import ValidatorGen.Proofs.Schema.Change
import ValidatorGen.Proofs.Schema.Header
import Mathlib.Algebra.Group.Nat.Even

/-!
# Comments in a schema source

A comment that is put behind a line of a source changes no hint, whatever the line is and whatever
the comment holds.

* `quotes`, `code_append_comment` — behind a line whose quotes are balanced, a comment is dropped;
* `header?_append_comment` — it neither opens a block nor keeps a line from opening one;
* `ofSource_append_comment` — so the hints of the source stay as they are.
-/

namespace ValidatorGen.Native

/-! ## Quotes -/

/-- The number of double quotes in a line, those behind a backslash that escapes them apart. -/
def quotes : Text → Nat
  | [] => 0
  | .char '\\' :: _ :: r => quotes r
  | c :: r => quotes r + if c = '"' then 1 else 0

theorem quotes_cons {c : CodePoint} (hc : c ≠ .char '\\') (r : Text) :
    quotes (c :: r) = quotes r + if c = '"' then 1 else 0 := by
  rw [quotes]
  rintro x s rfl
  exact absurd rfl hc

theorem quotes_append {p : Text} (hquote : .char '"' ∉ p) (hslash : .char '\\' ∉ p) (s : Text) :
    quotes (p ++ s) = quotes s := by
  induction p with
  | nil => rfl
  | cons c p ih =>
    rw [List.mem_cons, not_or] at hquote hslash
    rw [List.cons_append, quotes_cons (Ne.symm hslash.1), if_neg (Ne.symm hquote.1),
      ih hquote.2 hslash.2, Nat.add_zero]

/-- Whether the scan is inside a literal behind a text. -/
def inStringBehind (inString : Bool) (s : Text) : Bool := inString != (quotes s % 2 == 1)

theorem inStringBehind_cons {c : CodePoint} (hc : c ≠ .char '\\') (q : Bool) (r : Text) :
    inStringBehind q (c :: r) = inStringBehind (q != (c == .char '"')) r := by
  unfold inStringBehind
  rw [quotes_cons hc]
  by_cases h : c = .char '"'
  · subst h
    rw [if_pos rfl, beq_self_eq_true]
    rcases Nat.mod_two_eq_zero_or_one (quotes r) with hr | hr
    · have : (quotes r + 1) % 2 = 1 := by omega
      simp [hr, this]
    · have : (quotes r + 1) % 2 = 0 := by omega
      simp [hr, this]
  · rw [if_neg h, beq_eq_false_iff_ne.2 h, Nat.add_zero, Bool.bne_false]

/-! ## The end of a line -/

/-- A comment starts at a character. -/
def StartsComment (q : Bool) (c : CodePoint) (r : Text) : Prop :=
  c = .char '/' ∧ q = false ∧ r.head? = some (.char '/')

theorem startsComment_iff {q : Bool} {c : CodePoint} {r : Text} :
    (decide (c = .char '/') && !q && r.head? == some (.char '/')) = true ↔ StartsComment q c r := by
  rw [StartsComment, Bool.and_eq_true, Bool.and_eq_true, decide_eq_true_eq, Bool.not_eq_true',
    beq_iff_eq, and_assoc]

theorem code_of_startsComment {q : Bool} {c : CodePoint} {r : Text} (h : StartsComment q c r) :
    code q (c :: r) = [] := by
  have hc : ∀ x s, c = .char '\\' → r = x :: s → False := by
    rintro _ _ rfl
    exact absurd h.1 (by decide)
  rw [code.eq_3 q c r hc]
  exact if_pos (startsComment_iff.2 h)

theorem code_cons {q : Bool} {c : CodePoint} {r : Text} (hc : c ≠ .char '\\')
    (h : ¬ StartsComment q c r) : code q (c :: r) = c :: code (q != (c == .char '"')) r := by
  rw [code.eq_3 q c r fun _ _ hslash => absurd hslash hc]
  exact if_neg fun hstart => h (startsComment_iff.1 hstart)

/-- What is put behind a text starts no comment in it, unless it starts with a slash. -/
theorem not_startsComment_append {q : Bool} {c : CodePoint} {r s : Text}
    (h : ¬ StartsComment q c r) (hs : s.head? ≠ some (.char '/')) :
    ¬ StartsComment q c (r ++ s) := by
  rintro ⟨hc, hq, hhead⟩
  cases r with
  | nil => exact hs hhead
  | cons x r => exact h ⟨hc, hq, hhead⟩

/-- A backslash that takes no character with it stands at the end. -/
theorem eq_nil_of_takes_none {c : CodePoint} {r : Text} (hc : c = .char '\\')
    (h : ∀ x s, c = .char '\\' → r = x :: s → False) : r = [] := by
  cases r with
  | nil => rfl
  | cons x s => exact (h x s hc rfl).elim

/-- A comment behind a line whose quotes are balanced is dropped, up to the blank in front of it;
the blank is taken by a backslash at the end of the line. -/
theorem code_append_comment {q : Bool} {l : Text} (h : inStringBehind q l = false) (c : Text) :
    ∃ b, Text.isBlankText b = true ∧ code q (l ++ (" //" ++ c)) = code q l ++ b := by
  have hcomment : code false (" //" ++ c) = " " := rfl
  fun_induction code q l with
  | case1 q =>
    obtain rfl : q = false := (Bool.bne_false q).symm.trans h
    exact ⟨" ", by decide, hcomment⟩
  | case2 q d r ih =>
    obtain ⟨b, hb, hcode⟩ := ih h
    exact ⟨b, hb, by rw [List.cons_append, List.cons_append, code, hcode]; rfl⟩
  | case3 q d r hd hstart =>
    obtain ⟨hslash, hq, hhead⟩ := startsComment_iff.1 hstart
    obtain ⟨x, s, rfl⟩ := List.exists_cons_of_ne_nil fun hr : r = [] => by simp [hr] at hhead
    exact ⟨[], rfl, code_of_startsComment ⟨hslash, hq, hhead⟩⟩
  | case4 q d r hd hstart ih =>
    by_cases hslash : d = .char '\\'
    · obtain rfl := eq_nil_of_takes_none hslash hd
      subst hslash
      obtain rfl : q = false := (Bool.bne_false q).symm.trans h
      exact ⟨" ", by decide, rfl⟩
    · have hnone : ¬ StartsComment q d (r ++ (" //" ++ c)) :=
        not_startsComment_append (fun h => hstart (startsComment_iff.2 h)) (by rintro ⟨⟩)
      rw [inStringBehind_cons hslash] at h
      obtain ⟨b, hb, hcode⟩ := ih h
      exact ⟨b, hb, by rw [List.cons_append, code_cons hslash hnone, hcode, List.cons_append]⟩

/-! ## Headers -/

/-- The quotes of a line with a header in it all stand behind the header. -/
theorem quotes_of_header? {l name r : Text} (h : header? l = some (name, r)) :
    quotes r = quotes l := by
  obtain ⟨p, -, rfl⟩ := Schema.exists_header h
  exact (quotes_append (p.not_mem_text (by decide) (by decide) (by decide))
    (p.not_mem_text (by decide) (by decide) (by decide)) r).symm

/-- A header in front of a comment stands in the line before it: it has no slash, and a brace at its
end. -/
theorem header?_append_comment (l c : Text) :
    header? (l ++ (" //" ++ c)) = (header? l).map fun h => (h.1, h.2 ++ (" //" ++ c)) := by
  cases hl : header? l with
  | some h =>
    obtain ⟨p, hname, rfl⟩ := Schema.exists_header hl
    rw [List.append_assoc, p.header?_text_append, hname]
    rfl
  | none =>
    rw [Option.map_none, Option.eq_none_iff_forall_not_mem]
    rintro ⟨name, r⟩ h
    obtain ⟨p, -, heq⟩ := Schema.exists_header h
    have hslash : .char '/' ∉ p.text := p.not_mem_text (by decide) (by decide) (by decide)
    rcases List.append_eq_append_iff.1 heq with ⟨u, hp, hu⟩ | ⟨u, rfl, -⟩
    · cases u with
      | nil =>
        have hread := p.header?_text_append []
        rw [List.append_nil, hp, List.append_nil, hl] at hread
        cases hread
      | cons x u =>
        have hcomment : (" //" ++ c : Text) = .char ' ' :: .char '/' :: .char '/' :: c := rfl
        rw [hcomment, List.cons_append] at hu
        obtain ⟨rfl, hrest⟩ := List.cons.inj hu
        cases u with
        | nil =>
          have hlast := p.getLast?_text
          rw [hp, List.getLast?_concat] at hlast
          exact absurd (Option.some.inj hlast) (by decide)
        | cons y u =>
          obtain ⟨rfl, -⟩ := List.cons.inj hrest
          exact hslash (hp ▸ List.mem_append_right l (List.mem_cons_of_mem _ List.mem_cons_self))
    · rw [p.header?_text_append] at hl
      cases hl

/-! ## Sources -/

theorem inStringBehind_of_even {l : Text} (h : Even (quotes l)) :
    inStringBehind false l = false := by
  rw [inStringBehind, Nat.even_iff.1 h]
  rfl

/-- A comment behind a line with balanced quotes leaves what is read of it as it is. -/
theorem trim_stripComment_append_comment {l : Text} (h : Even (quotes l)) (c : Text) :
    Text.trim (stripComment (l ++ (" //" ++ c))) = Text.trim (stripComment l) := by
  obtain ⟨b, hb, hcode⟩ := code_append_comment (inStringBehind_of_even h) c
  rw [stripComment, hcode, Text.trim_append_blank hb, stripComment]

theorem opened?_append_comment {l : Text} (h : Even (quotes l)) (c : Text) :
    opened? (l ++ (" //" ++ c)) = opened? l := by
  rw [opened?, opened?, header?_append_comment, Option.map_map]
  refine Option.map_congr fun x hx => Prod.ext rfl ?_
  have hquotes : Even (quotes x.2) := quotes_of_header? hx ▸ h
  obtain ⟨b, hb, hcode⟩ := code_append_comment (inStringBehind_of_even hquotes) c
  have hbrace : .char '}' ∉ b := fun hc => absurd (List.all_eq_true.1 hb _ hc) (by decide)
  simp [stripComment, hcode, hbrace]

/-- **Comments** do not matter: one that is put behind a line with balanced quotes, whatever it
holds, leaves the hints of the source as they are. -/
theorem ofSource_append_comment {front line back c : Text} (h : Text.IsLine front line back)
    (hquotes : Even (quotes line)) (hc : ∀ x ∈ c, Text.isBoundary x = false) :
    Hints.ofSource (front ++ (line ++ " //" ++ c) ++ back)
      = Hints.ofSource (front ++ line ++ back) := by
  have hline : Text.IsLine front (line ++ (" //" ++ c)) back := by
    refine ⟨?_, h.front, h.back⟩
    simp only [List.forall_mem_append]
    exact ⟨h.onOneLine, by decide, hc⟩
  rw [List.append_assoc line, ofSource_line hline, ofSource_line h]
  cases hinside : endsInside (Text.lines front) with
  | true =>
    refine ofLines_inside hinside ?_ ?_ _
    · rw [closesBlock, closesBlock, trim_stripComment_append_comment hquotes]
    · rw [hint?, hint?, trim_stripComment_append_comment hquotes]
  | false => exact ofLines_outside hinside (opened?_append_comment hquotes c) _

/-- A comment that could end the block, open another one and hold a column type, behind a header. -/
theorem ofSource_append_comment_post :
    let front : Text := "view A \x7b\x7d\r\n"
    let line : Text := "model Post \x7b // \"posts\""
    let back : Text := "\n  title String @db.VarChar(9)\n\x7d"
    let c : Text := " \x7d \" model Tag \x7b id Int @db.Int"
    Text.IsLine front line back ∧ Even (quotes line) ∧ (∀ x ∈ c, Text.isBoundary x = false) ∧
      (Hints.ofSource (front ++ (line ++ " //" ++ c) ++ back)).get? "Post" "title"
        = some "VarChar(9)" := by
  intro front line back c
  have hline : Text.IsLine front line back := ⟨by decide +kernel, by decide +kernel, by decide⟩
  have hquotes : Even (quotes line) := by decide +kernel
  have hc : ∀ x ∈ c, Text.isBoundary x = false := by decide +kernel
  have hsource := ofSource_append_comment hline hquotes hc
  exact ⟨hline, hquotes, hc, hsource ▸ by decide +kernel⟩

end ValidatorGen.Native
