/-
# Scanning past the end of a line

A rule that takes something from a line takes the same when more text stands
behind the newline, but for a chord: its quotation mark need not be closed in
the line, and then it takes the newline (`taken_append`).

A scan of a text is so in step with a scan of its first line alone, as long as
no chord crosses the line.  Where the line ends, the scan of the text goes on
behind the newline, at the start of a line and in the region in which the line
was left (`inStep_of_notMem`).
-/

import TuneEditor.Proofs.Notation.Lexemes

namespace TuneEditor

namespace Rule

/-- A class of characters that has no newline stops at one. -/
theorem run_append {p : Char → Bool} (h : p '\n' = false) (cs rest : List Char) :
    run p (cs ++ '\n' :: rest) = run p cs := by
  have hstop : ('\n' :: rest).takeWhile p = [] := List.takeWhile_cons_of_neg (by simp [h])
  unfold run
  rw [List.takeWhile_append, hstop]
  split
  · next hall => rw [List.append_nil, hall]
  · rfl

/-- A character is no other if it is not on the line and no newline. -/
theorem head?_append {c : Char} (h : c ≠ '\n') (cs rest : List Char) :
    ((cs ++ '\n' :: rest).head? == some c) = (cs.head? == some c) := by
  cases cs with
  | nil => simp [h.symm]
  | cons d ds => rfl

/-- **A rule takes what it takes of the line**, whatever stands behind the newline, unless it is a
chord that the line does not close. -/
theorem taken_append (r : Rule) {c : Char} {cs : List Char} (h : c = '"' → '"' ∈ cs)
    (rest : List Char) : r.taken (c :: (cs ++ '\n' :: rest)) = r.taken (c :: cs) := by
  cases r with
  | field => rw [taken, taken, head?_append (by decide)]
  | keyField => rw [taken, taken, head?_append (by decide)]
  | comment => rw [taken, taken, run_append (by rfl)]
  | bar => rfl
  | note => rw [taken, taken, run_append (by rfl)]
  | accidental =>
    have hany : (cs ++ '\n' :: rest).head?.any isAccidental = cs.head?.any isAccidental := by
      cases cs with
      | nil => rfl
      | cons d ds => rfl
    rw [taken, taken, hany]
  | duration =>
    rw [taken, taken, run_append (by rfl), ← List.cons_append, run_append (by rfl)]
  | rest => rfl
  | chord =>
    rw [taken, taken]
    by_cases hc : (c == '"') = true
    · have hmem : '"' ∈ cs := h (eq_of_beq hc)
      rw [if_pos hc, if_pos hc, if_pos hmem, if_pos (List.mem_append_left _ hmem),
        run_append_of_lt (run_lt_of_mem hmem (by rfl))]
    · rw [if_neg hc, if_neg hc]
  | slur => rfl

end Rule

namespace Lexeme

/-- A lexeme is a chord that goes on behind the end of its line. -/
def CrossesLine (l : Lexeme) : Prop :=
  l.tag = some .chord ∧ '\n' ∈ l.chars

/-- A quotation mark opens a chord, wherever it stands. -/
theorem extent_quote (p : Place) (cs : List Char) :
    extent p '"' cs = (Rule.chord.taken ('"' :: cs), some .chord) := by
  have hpos : 0 < Rule.chord.taken ('"' :: cs) := by
    rw [Rule.taken, if_pos (by rfl)]
    split
    · omega
    · omega
  let earlier : List Rule :=
    [.field, .keyField, .comment, .bar, .note, .accidental, .duration, .rest]
  have hearlier : ∀ r ∈ earlier, r.taken ('"' :: cs) = 0 := by
    intro r hr
    cases r with
    | chord => exact absurd hr (by decide)
    | slur => exact absurd hr (by decide)
    | _ => rfl
  have hfind : Rule.all.find? (fun r => r.allowed p && 0 < r.taken ('"' :: cs)) =
      some .chord := by
    have hall : Rule.all = earlier ++ [.chord, .slur] := rfl
    have hnone : earlier.find? (fun r => r.allowed p && 0 < r.taken ('"' :: cs)) = none := by
      rw [List.find?_eq_none]
      intro r hr
      rw [hearlier r hr]
      simp
    have hchord : (Rule.chord.allowed p && decide (0 < Rule.chord.taken ('"' :: cs))) = true := by
      rw [decide_eq_true hpos]
      rfl
    rw [hall, List.find?_append, hnone, Option.none_or]
    exact List.find?_cons_of_pos hchord
  unfold extent
  rw [if_neg (by decide), hfind]
  rfl

/-- A chord that its line does not close crosses the end of the line. -/
theorem crossesLine_first (p : Place) {cs : List Char} (h : '"' ∉ cs) (rest : List Char) :
    (first p '"' (cs ++ '\n' :: rest)).CrossesLine := by
  let ds := cs ++ '\n' :: rest
  -- The chord goes on at least to the newline.
  have hrun : cs.length + 1 ≤ Rule.run (· != '"') ds := by
    have hopen : '"' ∉ cs ++ ['\n'] := by simpa using h
    have hle := Rule.length_le_run (Rule.bne_of_notMem hopen) rest
    rwa [List.length_append, List.append_assoc] at hle
  have htaken : cs.length + 2 ≤ Rule.chord.taken ('"' :: ds) := by
    rw [Rule.taken, if_pos (by rfl)]
    split
    · omega
    · rw [List.length_append, List.length_cons]
      omega
  have hfirst : first p '"' ds =
      ⟨('"' :: ds).take (Rule.chord.taken ('"' :: ds)), some .chord, p.region⟩ := by
    unfold first
    rw [extent_quote]
    rfl
  have hprefix : '"' :: (cs ++ ['\n']) <+: ('"' :: ds).take (Rule.chord.taken ('"' :: ds)) := by
    rw [List.prefix_take_iff]
    refine ⟨⟨rest, by simp [ds]⟩, ?_⟩
    rw [List.length_cons, List.length_append, List.length_singleton]
    omega
  rw [hfirst]
  exact ⟨rfl, hprefix.subset (by simp)⟩

/-- The first lexeme of a line is that of the text, if it is no chord that the line does not
close. -/
theorem first_append (p : Place) {c : Char} {cs : List Char} (hc : Text.isBlank c = false)
    (h : c = '"' → '"' ∈ cs) (rest : List Char) :
    first p c (cs ++ '\n' :: rest) = first p c cs := by
  have hextent : extent p c (cs ++ '\n' :: rest) = extent p c cs := by
    unfold extent
    rw [if_neg (by simp [hc]), if_neg (by simp [hc])]
    simp only [Rule.taken_append _ h]
  unfold first
  rw [hextent]
  dsimp only
  rw [← List.cons_append, List.take_append_of_le_length (extent_le p c cs)]

end Lexeme
/-- A scan of a text does what a scan of its first line does, and goes on behind the newline, at the
start of a line and in the region in which the first line was left. -/
def InStep (start : Nat) (p : Place) (line rest : List Char) : Prop :=
  marks start p (line ++ '\n' :: rest) =
      marks start p line ++ marks (start + Utf8.size line + 1) ⟨behind p line, true⟩ rest ∧
    behind p (line ++ '\n' :: rest) = behind ⟨behind p line, true⟩ rest

namespace InStep

variable {start : Nat} {p : Place} {c : Char} {cs rest : List Char}

/-- An empty line is in step: the newline behind it is a blank. -/
theorem nil (start : Nat) (p : Place) (rest : List Char) : InStep start p [] rest := by
  have hnewline : Text.isBlank '\n' = true := by rfl
  unfold InStep
  rw [List.nil_append, marks_of_blank start p hnewline, behind_of_blank p hnewline, marks_nil,
    behind_nil]
  exact ⟨rfl, rfl⟩

/-- A line that begins with a blank is in step if it is so behind that blank. -/
theorem of_blank (hc : Text.isBlank c = true)
    (h : InStep (start + c.utf8Size) ⟨p.region, c == '\n'⟩ cs rest) :
    InStep start p (c :: cs) rest := by
  unfold InStep at h ⊢
  rw [List.cons_append, marks_of_blank start p hc, marks_of_blank start p hc, behind_of_blank p hc,
    behind_of_blank p hc, Utf8.size_cons, ← Nat.add_assoc start]
  exact h

/-- What is behind a lexeme of the line in the text. -/
theorem drop_of_split {l : Lexeme} {line : List Char} (hsplit : l.chars ++ line = c :: cs)
    (rest : List Char) :
    (c :: (cs ++ '\n' :: rest)).drop l.chars.length = line ++ '\n' :: rest := by
  rw [← List.cons_append, ← hsplit, List.append_assoc, List.drop_left]

/-- If text and line begin with the same lexeme, they are in step if they are behind it. -/
theorem of_first {l : Lexeme} {line : List Char} (hline : Lexeme.first p c cs = l)
    (htext : Lexeme.first p c (cs ++ '\n' :: rest) = l) (hsplit : l.chars ++ line = c :: cs)
    (h : InStep (start + Utf8.size l.chars) l.next line rest) : InStep start p (c :: cs) rest := by
  obtain ⟨hmarks, hbehind⟩ := h
  have hdropLine : (c :: cs).drop l.chars.length = line := by
    rw [← hsplit, List.drop_left]
  have hsize : start + Utf8.size l.chars + Utf8.size line = start + Utf8.size (c :: cs) := by
    rw [← hsplit, Utf8.size_append, Nat.add_assoc]
  have hbehindLine : behind p (c :: cs) = behind l.next line := by
    rw [behind_cons, hline, hdropLine]
  constructor
  · rw [List.cons_append, marks_cons, htext, drop_of_split hsplit, hmarks, hbehindLine, ← hsize,
      marks_cons start p c cs, hline, hdropLine, List.append_assoc]
  · rw [List.cons_append, behind_cons, htext, drop_of_split hsplit, hbehind, hbehindLine]

end InStep

/-- **A scan of a text is in step with a scan of its first line**, unless a chord crosses a line. -/
theorem inStep_of_notMem {line : List Char} (h : '\n' ∉ line) (rest : List Char) {start : Nat}
    {p : Place} (hchord : ∀ m ∈ marks start p (line ++ '\n' :: rest), ¬ m.2.CrossesLine) :
    InStep start p line rest := by
  -- By the length of the line, since a lexeme is taken off as a whole.
  induction hn : line.length using Nat.strongRecOn generalizing line start p with
  | ind n ih =>
    cases line with
    | nil => exact .nil start p rest
    | cons c cs =>
      rw [List.cons_append] at hchord
      have hcs : '\n' ∉ cs := fun hmem => h (List.mem_cons_of_mem c hmem)
      cases hc : Text.isBlank c with
      | true =>
        rw [marks_of_blank start p hc] at hchord
        refine .of_blank hc (ih cs.length ?_ hcs hchord rfl)
        rw [← hn, List.length_cons]
        omega
      | false =>
        by_cases hquote : c = '"' → '"' ∈ cs
        · have htext := Lexeme.first_append p hc hquote rest
          obtain ⟨line', hsplit⟩ : ∃ line', (Lexeme.first p c cs).chars ++ line' = c :: cs :=
            ⟨_, Lexeme.first_append_drop p c cs⟩
          have hlt : line'.length < n := by
            have hpos := Lexeme.length_first_pos p c cs
            rw [← hn, ← hsplit, List.length_append]
            omega
          have hline' : '\n' ∉ line' :=
            fun hmem => h (hsplit ▸ List.mem_append_right _ hmem)
          rw [marks_cons, htext, InStep.drop_of_split hsplit] at hchord
          refine .of_first rfl htext hsplit (ih line'.length hlt hline' ?_ rfl)
          exact fun m hm => hchord m (List.mem_append_right _ hm)
        · -- The chord that begins here is a mark, and it crosses the line.
          obtain ⟨rfl, hopen⟩ := Classical.not_imp.1 hquote
          have hcross := Lexeme.crossesLine_first p hopen rest
          rw [marks_cons, hcross.1] at hchord
          exact absurd hcross (hchord _ (List.mem_append_left _ List.mem_cons_self))

end TuneEditor
