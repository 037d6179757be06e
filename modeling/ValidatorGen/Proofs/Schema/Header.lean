import ValidatorGen.Proofs.Schema.Annotation

/-!
# Headers of blocks

A block opens with a keyword, its name and a brace, with blanks between them.

* `header?_text_append` — the scan reads a header, whatever follows it;
* `exists_header` — and it reads nothing else.
-/

namespace ValidatorGen.Schema

open Native

/-- A header up to its brace. -/
structure Header where
  indent : Text := []
  keyword : Text
  gap : Text
  name : Text
  space : Text := []
  isBlankText_indent : Text.isBlankText indent = true
  isKeyword : keyword = "model" ∨ keyword = "view"
  isBlankText_gap : Text.isBlankText gap = true
  gap_ne_nil : gap ≠ []
  isWordText_name : IsWordText name
  isBlankText_space : Text.isBlankText space = true

theorem isWordText_of_isKeyword {k : Text} (h : k = "model" ∨ k = "view") : IsWordText k := by
  rcases h with rfl | rfl <;> decide

/-- A word ends where blanks begin. -/
theorem head?_append_of_isBlankText {b s : Text} (hb : Text.isBlankText b = true)
    (hs : ∀ c ∈ s.head?, Text.isWord c = false) : ∀ c ∈ (b ++ s).head?, Text.isWord c = false := by
  cases b with
  | nil => exact hs
  | cons x b =>
    rintro c ⟨⟩
    exact Text.isWord_eq_false_of_isBlank (List.all_eq_true.1 hb x List.mem_cons_self)

namespace Header

def text (h : Header) : Text :=
  h.indent ++ (h.keyword ++ (h.gap ++ (h.name ++ (h.space ++ "\x7b"))))

/-- A header is made of blanks, words and a brace. -/
theorem not_mem_text (h : Header) {c : CodePoint} (hblank : Text.isBlank c = false)
    (hword : Text.isWord c = false) (hbrace : c ≠ .char '\x7b') : c ∉ h.text := by
  have hblanks : ∀ s, Text.isBlankText s = true → c ∉ s := fun s hs hc => by
    rw [List.all_eq_true.1 hs c hc] at hblank
    cases hblank
  have hwords : ∀ s, IsWordText s → c ∉ s := fun s hs hc => by
    rw [hs.2 c hc] at hword
    cases hword
  simp only [text, List.mem_append, not_or]
  exact ⟨hblanks _ h.isBlankText_indent, hwords _ (isWordText_of_isKeyword h.isKeyword),
    hblanks _ h.isBlankText_gap, hwords _ h.isWordText_name, hblanks _ h.isBlankText_space,
    fun hc => hbrace (List.mem_singleton.1 hc)⟩

theorem getLast?_text (h : Header) : h.text.getLast? = some (.char '\x7b') := by
  have hbrace : ("\x7b" : Text) = [.char '\x7b'] := rfl
  simp only [text, hbrace, ← List.append_assoc, List.getLast?_concat]

/-- The scan reads a header, whatever follows it. -/
theorem header?_text_append (h : Header) (r : Text) : header? (h.text ++ r) = some (h.name, r) := by
  obtain ⟨hkeyword, hword⟩ := isWordText_of_isKeyword h.isKeyword
  have hbrace : ∀ c ∈ (h.space ++ ("\x7b" ++ r) : Text).head?, Text.isWord c = false :=
    head?_append_of_isBlankText h.isBlankText_space (by rintro c ⟨⟩; decide)
  obtain ⟨b, bs, hgap⟩ := List.exists_cons_of_ne_nil h.gap_ne_nil
  have hb : Text.isBlank b = true :=
    List.all_eq_true.1 h.isBlankText_gap b (hgap ▸ List.mem_cons_self)
  have hend : ∀ c ∈ (h.gap ++ (h.name ++ (h.space ++ ("\x7b" ++ r)))).head?,
      Text.isWord c = false := by
    rw [hgap]
    rintro c ⟨⟩
    exact Text.isWord_eq_false_of_isBlank hb
  have htext : h.text ++ r
      = h.indent ++ (h.keyword ++ (h.gap ++ (h.name ++ (h.space ++ ("\x7b" ++ r))))) := by
    simp only [text, List.append_assoc]
  have hstart : Text.trimStart (h.space ++ ("\x7b" ++ r)) = "\x7b" ++ r := by
    rw [Text.trimStart_append h.isBlankText_space]
    exact Text.trimStart_cons_of_not_isBlank (by decide)
  have hhead : (h.gap ++ (h.name ++ (h.space ++ ("\x7b" ++ r)))).head?.any Text.isBlank = true := by
    rw [hgap]
    exact hb
  obtain ⟨w, ws, hname⟩ := List.exists_cons_of_ne_nil h.isWordText_name.1
  simp only [header?, htext,
    trimStart_append_isWordText h.isBlankText_indent ⟨hkeyword, hword⟩,
    takeWhile_append_stop hword hend, dropWhile_append_stop hword hend,
    trimStart_append_isWordText h.isBlankText_gap h.isWordText_name,
    takeWhile_append_stop h.isWordText_name.2 hbrace,
    dropWhile_append_stop h.isWordText_name.2 hbrace, hstart, hhead, if_pos h.isKeyword]
  rw [hname]
  rfl

end Header

theorem isBlankText_takeWhile (s : Text) : Text.isBlankText (s.takeWhile Text.isBlank) = true :=
  List.all_eq_true.2 fun _ hc => List.mem_takeWhile_imp hc

theorem takeWhile_append_trimStart (s : Text) : s.takeWhile Text.isBlank ++ Text.trimStart s = s :=
  List.takeWhile_append_dropWhile

/-- The scan reads no header but those that are written. -/
theorem exists_header {l name r : Text} (hl : header? l = some (name, r)) :
    ∃ h : Header, h.name = name ∧ l = h.text ++ r := by
  unfold header? at hl
  dsimp only at hl
  set s := Text.trimStart l with hs
  set gap := s.dropWhile Text.isWord with hgap
  set rest := Text.trimStart gap with hrest
  split at hl
  · rename_i hkeyword
    split at hl
    · rename_i w ws r' hname hbrace
      rw [hname] at hl
      split_ifs at hl with hblank
      obtain ⟨rfl, rfl⟩ := Prod.mk.inj (Option.some.inj hl)
      have hne : gap.takeWhile Text.isBlank ≠ [] := by
        obtain ⟨b, hb, hisBlank⟩ := (Option.any_eq_true _ _).1 hblank
        obtain ⟨bs, hbs⟩ := List.head?_eq_some_iff.1 hb
        rw [hbs, List.takeWhile_cons_of_pos hisBlank]
        exact List.cons_ne_nil _ _
      have hword : Schema.IsWordText (w :: ws) :=
        ⟨List.cons_ne_nil _ _, hname ▸ fun c hc => List.mem_takeWhile_imp hc⟩
      refine ⟨⟨l.takeWhile Text.isBlank, s.takeWhile Text.isWord, gap.takeWhile Text.isBlank,
        w :: ws, (rest.dropWhile Text.isWord).takeWhile Text.isBlank, isBlankText_takeWhile l,
        hkeyword, isBlankText_takeWhile gap, hne, hword, isBlankText_takeWhile _⟩, rfl, ?_⟩
      have hspace := takeWhile_append_trimStart (rest.dropWhile Text.isWord)
      rw [hbrace] at hspace
      have hname' : (w :: ws) ++ rest.dropWhile Text.isWord = rest :=
        hname ▸ List.takeWhile_append_dropWhile
      calc l = l.takeWhile Text.isBlank ++ s := (takeWhile_append_trimStart l).symm
        _ = l.takeWhile Text.isBlank ++ (s.takeWhile Text.isWord ++ gap) := by
          rw [hgap, List.takeWhile_append_dropWhile]
        _ = l.takeWhile Text.isBlank ++ (s.takeWhile Text.isWord ++ (gap.takeWhile Text.isBlank
              ++ ((w :: ws) ++ ((rest.dropWhile Text.isWord).takeWhile Text.isBlank
                ++ .char '\x7b' :: r')))) := by
          rw [hspace, hname', hrest, takeWhile_append_trimStart]
        _ = _ := by
          simp only [Header.text, List.append_assoc]
          rfl
    · cases hl
  · cases hl

end ValidatorGen.Schema
