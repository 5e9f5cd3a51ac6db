/-
# The lexemes of a text, one after the other

Put together again, the lexemes of a text are the text (`flatMap_chars_lexemes`),
so each has a place in it.  `marks` are the lexemes that have a tag, with the
bytes at which they start, and `behind` is the region in which a scan leaves a
text.

A scan need not take blanks in one go: it goes on in the same way if it takes a
single one (`marks_of_blank`, `behind_of_blank`), since a blank neither has a tag
nor changes the region, and a line starts behind it just if it is a newline.
-/

import TuneEditor.Notation.Lexeme

namespace TuneEditor

/-- A lexeme takes no more than there is. -/
theorem Lexeme.extent_le (p : Place) (c : Char) (cs : List Char) :
    (extent p c cs).1 ≤ (c :: cs).length := by
  unfold extent
  split
  · exact Rule.run_le_length _ _
  · split
    · exact Rule.taken_le _ _
    · rw [List.length_cons]
      omega

/-- The first lexeme is what stands in front of the rest. -/
theorem Lexeme.first_append_drop (p : Place) (c : Char) (cs : List Char) :
    (first p c cs).chars ++ (c :: cs).drop (first p c cs).chars.length = c :: cs := by
  have hprefix : (first p c cs).chars <+: c :: cs := List.take_prefix _ _
  conv => lhs; lhs; rw [List.prefix_iff_eq_take.1 hprefix]
  exact List.take_append_drop _ _

/-- A scan takes the first lexeme and goes on behind it. -/
theorem lexemes_cons (p : Place) (c : Char) (cs : List Char) :
    lexemes p (c :: cs) =
      Lexeme.first p c cs ::
        lexemes (Lexeme.first p c cs).next
          ((c :: cs).drop (Lexeme.first p c cs).chars.length) := by
  rw [lexemes]

/-- **A text is cut into its lexemes without a loss.** -/
theorem flatMap_chars_lexemes (p : Place) (cs : List Char) :
    (lexemes p cs).flatMap Lexeme.chars = cs := by
  induction p, cs using lexemes.induct with
  | case1 p => rw [lexemes, List.flatMap_nil]
  | case2 p c cs l ih =>
    rw [lexemes_cons, List.flatMap_cons, ih]
    exact Lexeme.first_append_drop p c cs

/-- Blanks in front of a text are a lexeme without a tag. -/
theorem lexemes_of_blank (p : Place) {c : Char} (h : Text.isBlank c = true) (cs : List Char) :
    lexemes p (c :: cs) =
      ⟨c :: cs.takeWhile Text.isBlank, none, p.region⟩ ::
        lexemes ⟨p.region, (c :: cs.takeWhile Text.isBlank).getLast? == some '\n'⟩
          (cs.dropWhile Text.isBlank) := by
  have htake : (c :: cs).take (Rule.run Text.isBlank (c :: cs)) =
      c :: cs.takeWhile Text.isBlank := by
    rw [Rule.take_run, List.takeWhile_cons_of_pos h]
  have hfirst : Lexeme.first p c cs = ⟨c :: cs.takeWhile Text.isBlank, none, p.region⟩ := by
    unfold Lexeme.first Lexeme.extent
    rw [if_pos h]
    dsimp only
    rw [htake]
    rfl
  have hdrop : cs.drop (cs.takeWhile Text.isBlank).length = cs.dropWhile Text.isBlank := by
    conv => lhs; rhs; rw [← List.takeWhile_append_dropWhile (p := Text.isBlank) (l := cs)]
    exact List.drop_left
  rw [lexemes_cons, hfirst, List.length_cons, List.drop_succ_cons, hdrop]
  rfl

/-- No step starts in front of the first, in whatever unit they are counted. -/
theorem le_start_of_mem_ofLexemes {measure : List Char → Nat} {start : Nat} {ls : List Lexeme}
    {s : Step} (h : s ∈ Step.ofLexemes measure start ls) : start ≤ s.start := by
  induction ls generalizing start with
  | nil => cases h
  | cons l ls ih =>
    rw [Step.ofLexemes] at h
    rcases List.mem_cons.1 h with rfl | h
    · exact Nat.le_refl start
    · exact Nat.le_trans (Nat.le_add_right _ _) (ih h)

/-- Steps follow each other, and so do the spans of those that have a tag. -/
theorem pairwise_filterMap_ofLexemes (measure : List Char → Nat) (start : Nat) (ls : List Lexeme) :
    ((Step.ofLexemes measure start ls).filterMap Span.ofStep?).Pairwise fun s t =>
      s.stop ≤ t.start := by
  have hsteps : (Step.ofLexemes measure start ls).Pairwise fun s t => s.stop ≤ t.start := by
    induction ls generalizing start with
    | nil => exact .nil
    | cons l ls ih => exact .cons (fun s hs => le_start_of_mem_ofLexemes hs) (ih _)
  refine hsteps.filterMap Span.ofStep? fun s t hst span hspan span' hspan' => ?_
  obtain ⟨tag, -, rfl⟩ := Option.map_eq_some_iff.1 hspan
  obtain ⟨tag', -, rfl⟩ := Option.map_eq_some_iff.1 hspan'
  exact hst

/-- Lexemes that follow each other, with the bytes at which they start. -/
def placed (start : Nat) : List Lexeme → List (Nat × Lexeme)
  | [] => []
  | l :: ls => (start, l) :: placed (start + Utf8.size l.chars) ls

/-- A lexeme that starts at a byte, as a step. -/
def Step.ofPlaced (m : Nat × Lexeme) : Step :=
  ⟨m.1, m.1 + Utf8.size m.2.chars, m.2.tag, m.2.after⟩

@[simp] theorem Step.start_ofPlaced (m : Nat × Lexeme) : (ofPlaced m).start = m.1 := rfl

@[simp] theorem Step.stop_ofPlaced (m : Nat × Lexeme) :
    (ofPlaced m).stop = m.1 + Utf8.size m.2.chars := rfl

@[simp] theorem Step.tag_ofPlaced (m : Nat × Lexeme) : (ofPlaced m).tag = m.2.tag := rfl

/-- The steps of lexemes are the lexemes with their places. -/
theorem ofLexemes_eq_map_placed (start : Nat) (ls : List Lexeme) :
    Step.ofLexemes Utf8.size start ls = (placed start ls).map Step.ofPlaced := by
  induction ls generalizing start with
  | nil => rfl
  | cons l ls ih =>
    rw [Step.ofLexemes, placed, List.map_cons, ih]
    rfl

/-- Their places apart, placed lexemes are the lexemes. -/
theorem map_snd_placed (start : Nat) (ls : List Lexeme) : (placed start ls).map Prod.snd = ls := by
  induction ls generalizing start with
  | nil => rfl
  | cons l ls ih => rw [placed, List.map_cons, ih]

/-- Where the first lexeme starts is added to where the others do. -/
theorem placed_add (start n : Nat) (ls : List Lexeme) :
    placed (start + n) ls = (placed n ls).map fun m => (start + m.1, m.2) := by
  induction ls generalizing n with
  | nil => rfl
  | cons l ls ih => rw [placed, placed, List.map_cons, Nat.add_assoc, ih]

/-- A lexeme starts behind the text of those before it. -/
theorem exists_append_of_mem_placed {start : Nat} {ls : List Lexeme} {m : Nat × Lexeme}
    (h : m ∈ placed start ls) :
    ∃ pre post, ls = pre ++ m.2 :: post ∧
      m.1 = start + Utf8.size (pre.flatMap Lexeme.chars) := by
  induction ls generalizing start with
  | nil => cases h
  | cons l ls ih =>
    rw [placed] at h
    rcases List.mem_cons.1 h with rfl | h
    · exact ⟨[], ls, rfl, rfl⟩
    · obtain ⟨pre, post, hls, hstart⟩ := ih h
      refine ⟨l :: pre, post, by rw [hls, List.cons_append], ?_⟩
      rw [hstart, List.flatMap_cons, Utf8.size_append, Nat.add_assoc]

/-- A placed lexeme stands in the text of all of them, behind as many bytes as its place says. -/
theorem eq_append_of_mem_placed {start : Nat} {ls : List Lexeme} {m : Nat × Lexeme}
    (h : m ∈ placed start ls) :
    ∃ before after : List Char,
      ls.flatMap Lexeme.chars = before ++ m.2.chars ++ after ∧ m.1 = start + Utf8.size before := by
  obtain ⟨pre, post, rfl, hstart⟩ := exists_append_of_mem_placed h
  refine ⟨pre.flatMap Lexeme.chars, post.flatMap Lexeme.chars, ?_, hstart⟩
  rw [List.flatMap_append, List.flatMap_cons, List.append_assoc]

/-- The lexemes of a text that have a tag, with the bytes at which they start when the text itself
starts at one. -/
def marks (start : Nat) (p : Place) (cs : List Char) : List (Nat × Lexeme) :=
  (placed start (lexemes p cs)).filter fun m => m.2.tag.isSome

/-- The region in which a scan that begins at a place leaves a text. -/
def behind (p : Place) (cs : List Char) : Region :=
  ((lexemes p cs).getLast?.map Lexeme.after).getD p.region

/-- There is nothing to mark in an empty text. -/
theorem marks_nil (start : Nat) (p : Place) : marks start p [] = [] := by
  rw [marks, lexemes]
  rfl

/-- An empty text leaves the region as it was. -/
theorem behind_nil (p : Place) : behind p [] = p.region := by
  rw [behind, lexemes]
  rfl

/-- The marks of a text are its first lexeme, if that has a tag, and the marks behind it. -/
theorem marks_cons (start : Nat) (p : Place) (c : Char) (cs : List Char) :
    marks start p (c :: cs) =
      (if (Lexeme.first p c cs).tag.isSome then [(start, Lexeme.first p c cs)] else []) ++
        marks (start + Utf8.size (Lexeme.first p c cs).chars) (Lexeme.first p c cs).next
          ((c :: cs).drop (Lexeme.first p c cs).chars.length) := by
  rw [marks, lexemes_cons, placed, List.filter_cons]
  split
  · rfl
  · rfl

/-- The region behind a text is that behind what follows its first lexeme. -/
theorem behind_of_lexemes {p : Place} {cs : List Char} {l : Lexeme} {q : Place}
    {rest : List Char} (h : lexemes p cs = l :: lexemes q rest) (hq : q.region = l.after) :
    behind p cs = behind q rest := by
  unfold behind
  rw [h, List.getLast?_cons, hq]
  cases (lexemes q rest).getLast? with
  | none => rfl
  | some l' => rfl

/-- So it is for the first lexeme that a scan takes. -/
theorem behind_cons (p : Place) (c : Char) (cs : List Char) :
    behind p (c :: cs) =
      behind (Lexeme.first p c cs).next ((c :: cs).drop (Lexeme.first p c cs).chars.length) :=
  behind_of_lexemes (lexemes_cons p c cs) rfl

/-- Nothing is lost of the marks if a scan takes a single blank. -/
theorem marks_of_blank (start : Nat) (p : Place) {c : Char} (h : Text.isBlank c = true)
    (cs : List Char) :
    marks start p (c :: cs) = marks (start + c.utf8Size) ⟨p.region, c == '\n'⟩ cs := by
  have hblanks : ∀ (start : Nat) (p : Place) {c : Char}, Text.isBlank c = true → ∀ cs,
      marks start p (c :: cs) =
        marks (start + c.utf8Size + Utf8.size (cs.takeWhile Text.isBlank))
          ⟨p.region, (c :: cs.takeWhile Text.isBlank).getLast? == some '\n'⟩
          (cs.dropWhile Text.isBlank) := by
    intro start p c h cs
    rw [marks, lexemes_of_blank p h, placed, List.filter_cons, Utf8.size_cons, ← Nat.add_assoc]
    rfl
  rw [hblanks start p h]
  cases cs with
  | nil => simp
  | cons d ds =>
    by_cases hd : Text.isBlank d = true
    · rw [hblanks _ _ hd, List.takeWhile_cons_of_pos hd, List.dropWhile_cons_of_pos hd,
        List.getLast?_cons_cons, Utf8.size_cons, ← Nat.add_assoc]
    · rw [List.takeWhile_cons_of_neg hd, List.dropWhile_cons_of_neg hd]
      simp

/-- Neither is the region lost. -/
theorem behind_of_blank (p : Place) {c : Char} (h : Text.isBlank c = true) (cs : List Char) :
    behind p (c :: cs) = behind ⟨p.region, c == '\n'⟩ cs := by
  rw [behind_of_lexemes (lexemes_of_blank p h cs) rfl]
  cases cs with
  | nil => simp
  | cons d ds =>
    by_cases hd : Text.isBlank d = true
    · rw [behind_of_lexemes (lexemes_of_blank ⟨p.region, c == '\n'⟩ hd ds) rfl,
        List.takeWhile_cons_of_pos hd, List.dropWhile_cons_of_pos hd, List.getLast?_cons_cons]
    · rw [List.takeWhile_cons_of_neg hd, List.dropWhile_cons_of_neg hd]
      simp

end TuneEditor
