/-
# A step is the longest match of the first rule that has one

Each of the ten rules has a language, the words that it takes for a lexeme
(`Rule.Spells`), and a priority.

| priority | rule | words |
|---:|---|---|
| 100 | `field` | an ASCII letter and `:` |
| 95 | `keyField` | `K:` |
| 90 | `comment` | `%`, then no newline |
| 85 | `bar` | one of `|`, `:`, `[`, `]` |
| 80 | `note` | a letter from `A` to `G` or `a` to `g`, then `'` and `,` |
| 75 | `accidental` | one or two of `^`, `=`, `_` |
| 70 | `duration` | one ASCII digit or more, `/` may stand in front |
| 65 | `rest` | one of `z`, `x`, `Z` |
| 60 | `chord` | `"`, then no `"`, and `"` may stand behind |
| 55 | `slur` | one of `(`, `)`, `-` |

A rule takes the longest word of its language at the front of a text: no word that
stands there is longer than what it takes (`Rule.length_le_taken`), and what it
takes is a word (`Rule.spells_take_taken`).  So the scan finds the first language
that has a word at a byte of a text, and takes the longest
(`stepAt_longest_match`).
-/

import TuneEditor.Proofs.Notation.Header

namespace TuneEditor

/-- A text with a property, and no text with that property is longer. -/
def Longest (P : List Char → Prop) (w : List Char) : Prop :=
  P w ∧ ∀ w', P w' → w'.length ≤ w.length

/-- At a byte of a text another text can be read. -/
def StandsAt (cs : List Char) (pos : Nat) (w : List Char) : Prop :=
  ∃ rest, Utf8.At cs pos (w ++ rest)

/-- What can be read at a byte are the fronts of the text that begins there. -/
theorem standsAt_iff {cs text : List Char} {pos : Nat} (h : Utf8.At cs pos text)
    (w : List Char) : StandsAt cs pos w ↔ w <+: text := by
  constructor
  · rintro ⟨rest, hrest⟩
    exact ⟨rest, hrest.unique h⟩
  · rintro ⟨rest, rfl⟩
    exact ⟨rest, h⟩

namespace Rule

/-- The words of the language of each rule. -/
inductive Spells : Rule → List Char → Prop
  | field {c : Char} (hc : 'A' ≤ c ∧ c ≤ 'Z' ∨ 'a' ≤ c ∧ c ≤ 'z') : Spells field [c, ':']
  | keyField : Spells keyField ['K', ':']
  | comment {ds : List Char} (hds : '\n' ∉ ds) : Spells comment ('%' :: ds)
  | bar {c : Char} (hc : c ∈ ['|', ':', '[', ']']) : Spells bar [c]
  | note {c : Char} {ds : List Char} (hc : 'A' ≤ c ∧ c ≤ 'G' ∨ 'a' ≤ c ∧ c ≤ 'g')
    (hds : ∀ d ∈ ds, d ∈ ['\'', ',']) : Spells note (c :: ds)
  | oneSign {c : Char} (hc : c ∈ ['^', '=', '_']) : Spells accidental [c]
  | twoSigns {c d : Char} (hc : c ∈ ['^', '=', '_']) (hd : d ∈ ['^', '=', '_']) :
    Spells accidental [c, d]
  | number {ds : List Char} (hne : ds ≠ []) (hds : ∀ d ∈ ds, '0' ≤ d ∧ d ≤ '9') :
    Spells duration ds
  | fraction {ds : List Char} (hne : ds ≠ []) (hds : ∀ d ∈ ds, '0' ≤ d ∧ d ≤ '9') :
    Spells duration ('/' :: ds)
  | rest {c : Char} (hc : c ∈ ['z', 'x', 'Z']) : Spells rest [c]
  | openChord {ds : List Char} (hds : '"' ∉ ds) : Spells chord ('"' :: ds)
  | closedChord {ds : List Char} (hds : '"' ∉ ds) : Spells chord ('"' :: (ds ++ ['"']))
  | slur {c : Char} (hc : c ∈ ['(', ')', '-']) : Spells slur [c]

/-- Of two rules that fit, the one with the higher priority is used. -/
def priority : Rule → Nat
  | field => 100
  | keyField => 95
  | comment => 90
  | bar => 85
  | note => 80
  | accidental => 75
  | duration => 70
  | rest => 65
  | chord => 60
  | slur => 55

/-! ### The classes of characters -/

/-- The letters of a field are those of ASCII. -/
theorem isAlpha_iff {c : Char} :
    c.isAlpha = true ↔ 'A' ≤ c ∧ c ≤ 'Z' ∨ 'a' ≤ c ∧ c ≤ 'z' := by
  have hupper : c.isUpper = true ↔ 'A' ≤ c ∧ c ≤ 'Z' := decide_eq_true_iff
  have hlower : c.isLower = true ↔ 'a' ≤ c ∧ c ≤ 'z' :=
    Bool.and_eq_true_iff.trans (and_congr decide_eq_true_iff decide_eq_true_iff)
  exact Bool.or_eq_true_iff.trans (or_congr hupper hlower)

/-- The digits of a duration are those of ASCII. -/
theorem isDigit_iff {c : Char} : c.isDigit = true ↔ '0' ≤ c ∧ c ≤ '9' :=
  Bool.and_eq_true_iff.trans (and_congr decide_eq_true_iff decide_eq_true_iff)

/-- Notes are the letters from `A` to `G`, small or not. -/
theorem isNoteLetter_iff {c : Char} :
    isNoteLetter c = true ↔ 'A' ≤ c ∧ c ≤ 'G' ∨ 'a' ≤ c ∧ c ≤ 'g' := by
  simp [isNoteLetter]

/-- An apostrophe raises a note, a comma lowers it. -/
theorem isOctaveMark_iff {c : Char} : isOctaveMark c = true ↔ c ∈ ['\'', ','] := by
  simp [isOctaveMark]

/-- Bars are made of four signs. -/
theorem isBar_iff {c : Char} : isBar c = true ↔ c ∈ ['|', ':', '[', ']'] := by
  simp [isBar, or_assoc]

/-- There are three accidentals. -/
theorem isAccidental_iff {c : Char} : isAccidental c = true ↔ c ∈ ['^', '=', '_'] := by
  simp [isAccidental, or_assoc]

/-- There are three letters for a rest. -/
theorem isRest_iff {c : Char} : isRest c = true ↔ c ∈ ['z', 'x', 'Z'] := by
  simp [isRest, or_assoc]

/-- Slurs open, close or tie. -/
theorem isSlur_iff {c : Char} : isSlur c = true ↔ c ∈ ['(', ')', '-'] := by
  simp [isSlur, or_assoc]

/-! ### Languages and what the rules take -/

/-- No language has the empty word, so no rule gets a scan stuck. -/
theorem Spells.ne_nil {r : Rule} {w : List Char} (h : r.Spells w) : w ≠ [] := by
  cases h with
  | number hne => exact hne
  | _ => exact List.cons_ne_nil _ _

/-- **No word of the language of a rule is longer** than what the rule takes where it stands. -/
theorem length_le_taken {r : Rule} {w : List Char} (h : r.Spells w) (rest : List Char) :
    w.length ≤ r.taken (w ++ rest) := by
  cases h with
  | field hc => simp [taken, isAlpha_iff.2 hc]
  | keyField => simp [taken]
  | @comment ds hds =>
    have hrun := length_le_run (bne_of_notMem hds) rest
    simp only [List.cons_append, taken, List.length_cons, beq_self_eq_true, if_true]
    omega
  | bar hc => simp [taken, isBar_iff.2 hc]
  | @note c ds hc hds =>
    have hrun := length_le_run (p := isOctaveMark) (fun d hd => isOctaveMark_iff.2 (hds d hd)) rest
    simp only [List.cons_append, taken, List.length_cons, isNoteLetter_iff.2 hc, if_true]
    omega
  | oneSign hc =>
    simp only [List.cons_append, taken, isAccidental_iff.2 hc, if_true]
    split <;> simp
  | twoSigns hc hd => simp [taken, isAccidental_iff.2 hc, isAccidental_iff.2 hd]
  | number hne hds =>
    obtain ⟨c, ds, rfl⟩ := List.exists_cons_of_ne_nil hne
    -- No digit is a slash, so the number is not read as a fraction.
    have hslash : ¬ (c == '/') = true := by
      rw [beq_iff_eq]
      rintro rfl
      exact absurd (hds '/' List.mem_cons_self) (by decide)
    rw [List.cons_append, taken, if_neg hslash, ← List.cons_append]
    exact length_le_run (fun d hd => isDigit_iff.2 (hds d hd)) rest
  | @fraction ds hne hds =>
    have hpos := List.length_pos_iff.2 hne
    have hrun := length_le_run (p := Char.isDigit) (fun d hd => isDigit_iff.2 (hds d hd)) rest
    simp only [List.cons_append, taken, List.length_cons, beq_self_eq_true, if_true]
    rw [if_neg (by omega)]
    omega
  | rest hc => simp [taken, isRest_iff.2 hc]
  | @openChord ds hds =>
    have hrun := length_le_run (bne_of_notMem hds) rest
    simp only [List.cons_append, taken, List.length_cons, beq_self_eq_true, if_true,
      List.length_append]
    split <;> omega
  | @closedChord ds hds =>
    have hrun := length_le_run (bne_of_notMem hds) ('"' :: rest)
    have hmem : '"' ∈ ds ++ ['"'] ++ rest := by simp
    rw [List.cons_append, taken, if_pos (by rfl), if_pos hmem, List.append_assoc,
      List.singleton_append, List.length_cons, List.length_append, List.length_singleton]
    omega
  | slur hc => simp [taken, isSlur_iff.2 hc]

/-- A rule takes something only where its condition holds. -/
theorem of_ite_pos {P : Prop} [Decidable P] {n : Nat} (h : 0 < if P then n else 0) : P :=
  (ite_ne_right_iff.1 (Nat.ne_of_gt h)).1

/-- **What a rule takes is a word of its language**, if it takes anything. -/
theorem spells_take_taken (r : Rule) {c : Char} {cs : List Char} (h : 0 < r.taken (c :: cs)) :
    r.Spells ((c :: cs).take (r.taken (c :: cs))) := by
  cases r with
  | field =>
    rw [taken] at h ⊢
    have hform := of_ite_pos h
    obtain ⟨hc, hcolon⟩ := Bool.and_eq_true_iff.1 hform
    obtain ⟨rest, rfl⟩ := List.head?_eq_some_iff.1 (eq_of_beq hcolon)
    rw [if_pos hform]
    exact .field (isAlpha_iff.1 hc)
  | keyField =>
    rw [taken] at h ⊢
    have hform := of_ite_pos h
    obtain ⟨hc, hcolon⟩ := Bool.and_eq_true_iff.1 hform
    obtain ⟨rest, rfl⟩ := List.head?_eq_some_iff.1 (eq_of_beq hcolon)
    rw [if_pos hform, eq_of_beq hc]
    exact .keyField
  | comment =>
    rw [taken] at h ⊢
    have hform := of_ite_pos h
    rw [if_pos hform, Nat.add_comm, List.take_succ_cons, take_run, eq_of_beq hform]
    refine .comment fun hmem => ?_
    have hin := List.mem_takeWhile_imp hmem
    simp at hin
  | bar =>
    rw [taken] at h ⊢
    have hform := of_ite_pos h
    rw [if_pos hform]
    exact .bar (isBar_iff.1 hform)
  | note =>
    rw [taken] at h ⊢
    have hform := of_ite_pos h
    rw [if_pos hform, Nat.add_comm, List.take_succ_cons, take_run]
    exact .note (isNoteLetter_iff.1 hform) fun d hd =>
      isOctaveMark_iff.1 (List.mem_takeWhile_imp hd)
  | accidental =>
    rw [taken] at h ⊢
    have hform := of_ite_pos h
    rw [if_pos hform]
    split
    · next hnext =>
      obtain ⟨d, hd, hsign⟩ := (Option.any_eq_true _ _).1 hnext
      obtain ⟨rest, rfl⟩ := List.head?_eq_some_iff.1 hd
      exact .twoSigns (isAccidental_iff.1 hform) (isAccidental_iff.1 hsign)
    · exact .oneSign (isAccidental_iff.1 hform)
  | duration =>
    rw [taken] at h ⊢
    by_cases hslash : (c == '/') = true
    · rw [if_pos hslash] at h ⊢
      split at h
      · cases h
      · next hsome =>
        rw [if_neg hsome, Nat.add_comm, List.take_succ_cons, take_run, eq_of_beq hslash]
        exact .fraction (List.ne_nil_of_length_pos (Nat.pos_of_ne_zero hsome)) fun d hd =>
          isDigit_iff.1 (List.mem_takeWhile_imp hd)
    · rw [if_neg hslash] at h ⊢
      rw [take_run]
      exact .number (List.ne_nil_of_length_pos h) fun d hd =>
        isDigit_iff.1 (List.mem_takeWhile_imp hd)
  | rest =>
    rw [taken] at h ⊢
    have hform := of_ite_pos h
    rw [if_pos hform]
    exact .rest (isRest_iff.1 hform)
  | chord =>
    rw [taken] at h ⊢
    have hform := of_ite_pos h
    rw [if_pos hform, eq_of_beq hform]
    split
    · next hmem =>
      obtain ⟨ds, rest, rfl, hds⟩ := List.eq_append_cons_of_mem hmem
      have hrun : run (· != '"') (ds ++ '"' :: rest) = ds.length :=
        run_append_cons (bne_of_notMem hds) (by rfl) rest
      rw [hrun, List.take_succ_cons, List.take_length_add_append]
      exact .closedChord hds
    · next hopen =>
      rw [List.take_of_length_le (by simp)]
      exact .openChord hopen
  | slur =>
    rw [taken] at h ⊢
    have hform := of_ite_pos h
    rw [if_pos hform]
    exact .slur (isSlur_iff.1 hform)

/-- A rule takes something just if a word of its language stands there. -/
theorem pos_taken_iff (r : Rule) (c : Char) (cs : List Char) :
    0 < r.taken (c :: cs) ↔ ∃ w, w <+: c :: cs ∧ r.Spells w := by
  constructor
  · intro h
    exact ⟨_, List.take_prefix _ _, spells_take_taken r h⟩
  · rintro ⟨w, ⟨rest, hw⟩, hspells⟩
    rw [← hw]
    exact Nat.lt_of_lt_of_le (List.length_pos_iff.2 hspells.ne_nil) (length_le_taken hspells rest)

/-! ### The first rule that reads something -/

/-- At a byte of a text a rule reads a word of its language.  A field it reads only at the start of
a line, and only in the header. -/
def Reads (r : Rule) (region : Region) (cs : List Char) (pos : Nat) (w : List Char) : Prop :=
  r.Spells w ∧ StandsAt cs pos w ∧ (r = .field → region = .header ∧ LineStartAt cs pos)

/-- A rule that reads something at a byte of a text where no rule of a higher priority does. -/
def ReadsFirst (r : Rule) (region : Region) (cs : List Char) (pos : Nat) : Prop :=
  (∃ w, r.Reads region cs pos w) ∧
    ∀ r' : Rule, r.priority < r'.priority → ∀ w, ¬ r'.Reads region cs pos w

/-- The rules are tried in the order of their priorities. -/
theorem pairwise_priority_all : all.Pairwise fun r r' : Rule => r'.priority < r.priority := by
  decide

/-- Only one rule has a condition on the place: a field stands at the start of a line of the
header. -/
theorem allowed_iff (r : Rule) (p : Place) :
    r.allowed p = true ↔ (r = .field → p.region = .header ∧ p.atLineStart = true) := by
  cases r <;> simp [allowed, and_comm]

/-- The first rule of those that pass a test has the highest priority of them. -/
theorem priority_of_find? {fits : Rule → Bool} {r r' : Rule} (h : all.find? fits = some r)
    (hr' : r.priority < r'.priority) : fits r' = false := by
  obtain ⟨-, before, after, hall, hbefore⟩ := List.find?_eq_some_iff_append.1 h
  have hmem := mem_all r'
  have hsorted := pairwise_priority_all
  rw [hall] at hmem hsorted
  rcases List.mem_append.1 hmem with hmem | hmem
  · simpa using hbefore r' hmem
  · rcases List.mem_cons.1 hmem with rfl | hmem
    · exact absurd hr' (Nat.lt_irrefl _)
    · have hlt := (List.pairwise_cons.1 (List.pairwise_append.1 hsorted).2.1).1 r' hmem
      exact absurd hr' (Nat.lt_asymm hlt)

section Place

variable {region : Region} {before rest : List Char} {c : Char} {p : Place}

/-- What a rule reads at a byte are the words at the front of the text from there on, if it may be
used there. -/
theorem reads_iff (hregion : p.region = region)
    (hline : p.atLineStart = true ↔ LineStartAt (before ++ c :: rest) (Utf8.size before))
    (r : Rule) (w : List Char) :
    r.Reads region (before ++ c :: rest) (Utf8.size before) w ↔
      r.allowed p = true ∧ w <+: c :: rest ∧ r.Spells w := by
  rw [Reads, allowed_iff, standsAt_iff (.append before (c :: rest)), hregion, hline]
  tauto

/-- A rule is used for a text just if it is allowed there and reads a word. -/
theorem fits_iff (hregion : p.region = region)
    (hline : p.atLineStart = true ↔ LineStartAt (before ++ c :: rest) (Utf8.size before))
    (r : Rule) :
    (r.allowed p && decide (0 < r.taken (c :: rest))) = true ↔
      ∃ w, r.Reads region (before ++ c :: rest) (Utf8.size before) w := by
  simp only [reads_iff hregion hline, Bool.and_eq_true, decide_eq_true_eq, pos_taken_iff,
    exists_and_left]

/-- Of the words that a rule reads there, it takes the longest. -/
theorem longest_take_taken (hregion : p.region = region)
    (hline : p.atLineStart = true ↔ LineStartAt (before ++ c :: rest) (Utf8.size before))
    {r : Rule} (hfits : (r.allowed p && decide (0 < r.taken (c :: rest))) = true) :
    Longest (r.Reads region (before ++ c :: rest) (Utf8.size before))
      ((c :: rest).take (r.taken (c :: rest))) := by
  obtain ⟨hallowed, hpos⟩ := Bool.and_eq_true_iff.1 hfits
  have hspells := r.spells_take_taken (of_decide_eq_true hpos)
  refine ⟨(reads_iff hregion hline r _).2 ⟨hallowed, List.take_prefix _ _, hspells⟩, ?_⟩
  intro w hw
  obtain ⟨-, ⟨behind, hbehind⟩, hword⟩ := (reads_iff hregion hline r w).1 hw
  rw [List.length_take, Nat.min_eq_left (r.taken_le _), ← hbehind]
  exact length_le_taken hword behind

end Place
end Rule

/-- The blanks at the front of a text are the longest part of it that is all blank. -/
theorem longest_takeWhile {cs text : List Char} {pos : Nat} (h : Utf8.At cs pos text)
    (p : Char → Bool) :
    Longest (fun w => StandsAt cs pos w ∧ ∀ d ∈ w, p d = true) (text.takeWhile p) := by
  refine ⟨⟨(standsAt_iff h _).2 (List.takeWhile_prefix p), fun d hd => List.mem_takeWhile_imp hd⟩, ?_⟩
  rintro w ⟨hstands, hall⟩
  obtain ⟨rest, rfl⟩ := (standsAt_iff h w).1 hstands
  exact Rule.length_le_run hall rest

/-- **A step is the longest match of the first rule that has one.**  Where a blank stands, the step
takes the blanks and has no tag.  Where another character stands, it takes the longest word that the
first rule in the order of priority reads there, and has the tag of that rule; and if no rule reads
anything there it takes that character alone, as plain. -/
theorem stepAt_longest_match (region : Region) {cs rest : List Char} {pos : Nat} {c : Char}
    (h : Utf8.At cs pos (c :: rest)) :
    (Text.isBlank c = true →
      ∃ w, Longest (fun w => StandsAt cs pos w ∧ ∀ d ∈ w, Text.isBlank d = true) w ∧
        stepAt region cs pos = ⟨pos, pos + Utf8.size w, none, region⟩) ∧
    (Text.isBlank c = false →
      (∃ (r : Rule) (w : List Char), r.ReadsFirst region cs pos ∧ Longest (r.Reads region cs pos) w ∧
        stepAt region cs pos =
          ⟨pos, pos + Utf8.size w, some r.tag, Lexeme.regionAfter region (some r.tag) w⟩) ∨
      ((∀ (r : Rule) (w : List Char), ¬ r.Reads region cs pos w) ∧
        stepAt region cs pos = ⟨pos, pos + c.utf8Size, some .plain, region⟩)) := by
  obtain ⟨before, rfl, rfl⟩ := h
  have hat := Utf8.At.append before (c :: rest)
  let p : Place := ⟨region, before.isEmpty || before.getLast? == some '\n'⟩
  let l := Lexeme.first p c rest
  have hstep : stepAt region (before ++ c :: rest) (Utf8.size before) =
      ⟨Utf8.size before, Utf8.size before + Utf8.size l.chars, l.tag,
        Lexeme.regionAfter region l.tag l.chars⟩ :=
    stepAt_size region before c rest
  have hline : p.atLineStart = true ↔ LineStartAt (before ++ c :: rest) (Utf8.size before) := by
    rw [lineStartAt_append_iff]
    simp [p, List.getLast?_eq_some_iff]
  have hfits := Rule.fits_iff (p := p) rfl hline
  rw [hstep]
  constructor
  · intro hc
    have htag : l.tag = none := (Lexeme.tag_first_eq_none_iff p c rest).2 hc
    have hchars : l.chars = (c :: rest).takeWhile Text.isBlank := by
      rw [List.takeWhile_cons_of_pos hc]
      exact (Lexeme.first_of_tag_eq_none htag).1
    rw [htag, hchars]
    exact ⟨_, longest_takeWhile hat Text.isBlank, rfl⟩
  · intro hc
    rcases Lexeme.first_of_not_blank p rest hc with ⟨r, hfind, hchars, htag⟩ | ⟨hfind, hchars, htag⟩
    · have hfit := List.find?_some hfind
      have hlongest := Rule.longest_take_taken (p := p) rfl hline hfit
      rw [← hchars] at hlongest
      refine .inl ⟨r, l.chars, ⟨(hfits r).1 hfit, fun r' hr' w hw => ?_⟩, hlongest, ?_⟩
      · have hfalse := Rule.priority_of_find? hfind hr'
        rw [(hfits r').2 ⟨w, hw⟩] at hfalse
        cases hfalse
      · rw [show l.tag = some r.tag from htag]
    · refine .inr ⟨fun r w hw => ?_, ?_⟩
      · exact List.find?_eq_none.1 hfind r r.mem_all ((hfits r).2 ⟨w, hw⟩)
      · rw [show l.tag = some .plain from htag, show l.chars = [c] from hchars]
        rfl

/-- A note letter that begins a header field, behind a character of two bytes: the field has the
higher priority, and takes the colon too. -/
theorem stepAt_longest_match_of_field :
    let cs := ['é', '\n', 'C', ':', '2']
    Utf8.At cs 3 ['C', ':', '2'] ∧ Text.isBlank 'C' = false ∧
      stepAt .header cs 3 = ⟨3, 5, some .header, .header⟩ ∧
      ∃ (r : Rule) (w : List Char), r.ReadsFirst .header cs 3 ∧
        Longest (r.Reads .header cs 3) w ∧ r.tag = .header ∧ Utf8.size w = 2 := by
  intro cs
  have hat : Utf8.At cs 3 ['C', ':', '2'] := ⟨['é', '\n'], rfl, rfl⟩
  have hstep : stepAt .header cs 3 = ⟨3, 5, some .header, .header⟩ := rfl
  refine ⟨hat, rfl, hstep, ?_⟩
  rcases (stepAt_longest_match .header hat).2 rfl with ⟨r, w, hfirst, hlongest, heq⟩ | ⟨-, heq⟩
  · rw [hstep, Step.mk.injEq, Option.some_inj] at heq
    exact ⟨r, w, hfirst, hlongest, heq.2.2.1.symm, by omega⟩
  · rw [hstep, Step.mk.injEq] at heq
    cases heq.2.2.1

end TuneEditor
