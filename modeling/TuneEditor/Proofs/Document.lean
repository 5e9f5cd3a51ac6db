/-
# Where the lines and the parts of a document are

A line stands behind the lines above it, each of them with its newline
(`exists_line`).  So an offset in a line is the offset at which the line starts and
a column, and the position of it is the line and that column
(`exists_lineStart`).  No offset is below the last line (`line_position_lt`).

The part of a text that stands behind another is found again by the number of
characters in front of it, and so are its bytes (`slice?_length`,
`byteOffset?_length`).  An edit puts another text there, and a second one can put the
part back (`replace?_slice?`).
-/

import TuneEditor.Document
import TuneEditor.Proofs.Text.Lines

namespace TuneEditor

/-- Characters that are no newlines move a position along its line. -/
theorem Position.foldl_advance_of_notMem {cs : List Char} (h : '\n' ∉ cs) (p : Position) :
    cs.foldl advance p = ⟨p.line, p.column + cs.length⟩ := by
  induction cs generalizing p with
  | nil => rfl
  | cons c cs ih =>
    obtain ⟨hc, hcs⟩ : '\n' ≠ c ∧ '\n' ∉ cs := by simpa using h
    have hadvance : p.advance c = ⟨p.line, p.column + 1⟩ := if_neg (Ne.symm hc)
    rw [List.foldl_cons, hadvance, ih hcs, List.length_cons, Nat.add_assoc, Nat.add_comm 1]

/-- A character is one step farther, down or to the right. -/
theorem Position.advance_le (p : Position) (c : Char) :
    (p.advance c).line ≤ p.line + 1 ∧ (p.advance c).column ≤ p.column + 1 := by
  unfold advance
  split
  · exact ⟨Nat.le_refl _, Nat.zero_le _⟩
  · exact ⟨Nat.le_succ _, Nat.le_refl _⟩

/-- Every newline that is passed is one more line down. -/
theorem Position.line_foldl_advance (cs : List Char) (p : Position) :
    (cs.foldl advance p).line = p.line + cs.count '\n' := by
  induction cs generalizing p with
  | nil => rfl
  | cons c cs ih =>
    rw [List.foldl_cons, ih]
    by_cases hc : c = '\n'
    · have hadvance : p.advance c = ⟨p.line + 1, 0⟩ := if_pos hc
      rw [hadvance, hc, List.count_cons_self, Nat.add_assoc, Nat.add_comm 1]
    · have hadvance : p.advance c = ⟨p.line, p.column + 1⟩ := if_neg hc
      rw [hadvance, List.count_cons_of_ne hc]

namespace Document

/-- A document is made from its characters, its size included. -/
theorem ofChars_chars (d : Document) : ofChars d.chars = d := by
  obtain ⟨chars, size, rfl⟩ := d
  rfl

/-- There is a line even where there are no characters. -/
theorem lineCount_pos (d : Document) : 0 < d.lineCount :=
  Nat.succ_pos _

/-- Every line but the last one has a newline of its own. -/
theorem lineCount_le (d : Document) : d.lineCount ≤ d.size + 1 := by
  rw [d.size_eq]
  exact Nat.succ_le_succ List.count_le_length

/-- An offset past the end of a text has the position of the end. -/
theorem position_min (d : Document) (offset : Nat) :
    d.position (min offset d.size) = d.position offset := by
  unfold position
  rw [d.size_eq, ← List.take_eq_take_min]

/-- Every offset, past the end or not, is on a line that the text has. -/
theorem line_position_lt (d : Document) (offset : Nat) :
    (d.position offset).line < d.lineCount := by
  have hcount : (d.chars.take offset).count '\n' ≤ d.chars.count '\n' :=
    (List.take_sublist offset d.chars).count_le '\n'
  have hline : (d.position offset).line = 0 + (d.chars.take offset).count '\n' :=
    Position.line_foldl_advance ..
  unfold lineCount
  omega

/-- Behind no newline at all is where a text starts. -/
theorem offsetAfterNewlines?_zero (cs : List Char) : offsetAfterNewlines? 0 cs = some 0 := by
  cases cs with
  | nil => rfl
  | cons c cs => rfl

/-- Behind the first newline a text has one newline less to go. -/
theorem offsetAfterNewlines?_append {line : List Char} (h : '\n' ∉ line) (n : Nat)
    (rest : List Char) :
    offsetAfterNewlines? (n + 1) (line ++ '\n' :: rest) =
      (offsetAfterNewlines? n rest).map (line.length + 1 + ·) := by
  induction line with
  | nil =>
    rw [List.nil_append, offsetAfterNewlines?, if_pos rfl]
    exact congrArg (Option.map · _) (funext fun k => Nat.add_comm k 1)
  | cons c line ih =>
    obtain ⟨hc, hline⟩ : '\n' ≠ c ∧ '\n' ∉ line := by simpa using h
    rw [List.cons_append, offsetAfterNewlines?, if_neg (Ne.symm hc), ih hline, Option.map_map]
    refine congrArg (Option.map · _) (funext fun k => ?_)
    simp only [Function.comp_apply, List.length_cons]
    omega

/-- A text has a line for each newline and one more. -/
theorem length_lines_eq (d : Document) : d.lines.length = d.lineCount := by
  unfold lines lineCount
  induction d.chars using Text.lines_induction with
  | last line h =>
    rw [Text.lines_of_notMem h, List.count_eq_zero.2 h]
    rfl
  | next line rest h ih =>
    rw [Text.lines_append h, List.count_append, List.count_eq_zero.2 h, List.count_cons_self,
      List.length_cons, ih]
    omega

/-- A line stands behind some text that ends where a line starts, and has no newline in it. -/
theorem exists_line {cs line : List Char} {n : Nat} (h : (Text.lines cs)[n]? = some line) :
    ∃ above below, cs = above ++ (line ++ below) ∧
      offsetAfterNewlines? n cs = some above.length ∧
        (∀ k, above.foldl Position.advance ⟨k, 0⟩ = ⟨k + n, 0⟩) ∧ '\n' ∉ line := by
  induction cs using Text.lines_induction generalizing n with
  | last line' h' =>
    rw [Text.lines_of_notMem h'] at h
    cases n with
    | zero =>
      obtain rfl := Option.some.inj h
      exact ⟨[], [], (List.append_nil _).symm, offsetAfterNewlines?_zero _, fun k => rfl, h'⟩
    | succ n => cases h
  | next line' rest h' ih =>
    rw [Text.lines_append h'] at h
    cases n with
    | zero =>
      obtain rfl := Option.some.inj h
      exact ⟨[], '\n' :: rest, rfl, offsetAfterNewlines?_zero _, fun k => rfl, h'⟩
    | succ n =>
      obtain ⟨above, below, hrest, hoffset, hadvance, hline⟩ := ih h
      refine ⟨line' ++ '\n' :: above, below, ?_, ?_, fun k => ?_, hline⟩
      · rw [hrest, List.append_assoc, List.cons_append]
      · rw [offsetAfterNewlines?_append h', hoffset, List.length_append, List.length_cons]
        simp only [Option.map_some, Option.some.injEq]
        omega
      · rw [List.foldl_append, Position.foldl_advance_of_notMem h', List.foldl_cons,
          Position.advance, if_pos rfl, hadvance (k + 1), Nat.add_assoc, Nat.add_comm 1]

/-- **A column of a line is so far behind the offset at which the line starts.** -/
theorem exists_lineStart {d : Document} {n : Nat} {text : List Char}
    (h : d.lines[n]? = some text) :
    ∃ start, d.lineStart? n = some start ∧ '\n' ∉ text ∧
      ∀ i ≤ text.length, d.position (start + i) = ⟨n, i⟩ ∧
        ∀ c, text[i]? = some c → d.chars[start + i]? = some c := by
  obtain ⟨above, below, hchars, hoffset, hadvance, htext⟩ := exists_line h
  refine ⟨above.length, hoffset, htext, fun i hi => ⟨?_, fun c hc => ?_⟩⟩
  · have htake : '\n' ∉ text.take i := fun hmem => htext (List.mem_of_mem_take hmem)
    unfold position
    rw [hchars, List.take_length_add_append, List.take_append_of_le_length hi, List.foldl_append,
      hadvance 0, Position.foldl_advance_of_notMem htake, List.length_take, Nat.min_eq_left hi,
      Nat.zero_add, Nat.zero_add]
  · obtain ⟨hlt, -⟩ := List.getElem?_eq_some_iff.1 hc
    rw [hchars, List.getElem?_append_right (Nat.le_add_right _ _), Nat.add_sub_cancel_left,
      List.getElem?_append_left hlt, hc]

/-- What is in a line is in the text. -/
theorem mem_chars_of_getElem?_lines {d : Document} {n : Nat} {text : List Char}
    (h : d.lines[n]? = some text) {c : Char} (hc : c ∈ text) : c ∈ d.chars := by
  obtain ⟨start, -, -, hoffset⟩ := exists_lineStart h
  obtain ⟨i, hi⟩ := List.mem_iff_getElem?.1 hc
  have hle : i ≤ text.length := Nat.le_of_lt (List.getElem?_eq_some_iff.1 hi).1
  exact List.mem_of_getElem? ((hoffset i hle).2 c hi)

/-! ### Offsets and bytes -/

/-- The bytes in front of an offset are there just if the offset is. -/
theorem bytesOfFirst?_eq (cs : List Char) (offset : Nat) :
    bytesOfFirst? cs offset =
      if offset ≤ cs.length then some (Utf8.size (cs.take offset)) else none := by
  induction cs generalizing offset with
  | nil => cases offset <;> rfl
  | cons c cs ih =>
    cases offset with
    | zero => rfl
    | succ offset =>
      rw [bytesOfFirst?, ih, List.take_succ_cons, Utf8.size_cons]
      simp only [List.length_cons, Nat.add_le_add_iff_right]
      split
      · rfl
      · rfl

/-- **The byte position of an offset is the size of the text in front of it**, and an offset
past the end has none. -/
theorem byteOffset?_eq (d : Document) (offset : Nat) :
    d.byteOffset? offset =
      if offset ≤ d.size then some (Utf8.size (d.chars.take offset)) else none := by
  rw [d.size_eq]
  exact bytesOfFirst?_eq d.chars offset

/-- Where a text is cut, the bytes of the front are those in front of the cut. -/
theorem byteOffset?_length (before rest : List Char) :
    (ofChars (before ++ rest)).byteOffset? before.length = some (Utf8.size before) := by
  have hwithin : before.length ≤ (before ++ rest).length := by
    rw [List.length_append]
    exact Nat.le_add_right _ _
  refine (bytesOfFirst?_eq (before ++ rest) before.length).trans ?_
  rw [if_pos hwithin, List.take_left]

/-! ### Parts and edits -/

/-- A document is made of the parts in front of two offsets, between them and behind them. -/
theorem exists_parts {d : Document} {start stop : Nat} (hordered : start ≤ stop)
    (hwithin : stop ≤ d.size) :
    ∃ before part after, d = ofChars (before ++ (part ++ after)) ∧ before.length = start ∧
      before.length + part.length = stop := by
  rw [d.size_eq] at hwithin
  refine ⟨d.chars.take start, (d.chars.drop start).take (stop - start),
    (d.chars.drop start).drop (stop - start), ?_, ?_, ?_⟩
  · rw [List.take_append_drop, List.take_append_drop, ofChars_chars]
  · rw [List.length_take]
    omega
  · rw [List.length_take, List.length_take, List.length_drop]
    omega

/-- There is a part of a document between two offsets in order and in the text, and no other. -/
theorem slice?_eq_some_iff {d : Document} {start stop : Nat} {part : List Char} :
    d.slice? start stop = some part ↔
      start ≤ stop ∧ stop ≤ d.size ∧ part = (d.chars.take stop).drop start := by
  unfold slice?
  split
  · next hbounds => simp [hbounds, eq_comm]
  · next hbounds => simp; omega

/-- A part is cut out between the offsets at its ends. -/
theorem slice?_length (before part after : List Char) :
    (ofChars (before ++ (part ++ after))).slice? before.length (before.length + part.length) =
      some part := by
  refine slice?_eq_some_iff.2 ⟨Nat.le_add_right _ _, ?_, ?_⟩
  · simp [ofChars]
  · change part =
      ((before ++ (part ++ after)).take (before.length + part.length)).drop before.length
    rw [List.take_length_add_append, List.take_left, List.drop_left]

/-- Offsets in the wrong order or past the end replace nothing. -/
theorem replace?_of_not {d : Document} {start stop : Nat} (h : ¬(start ≤ stop ∧ stop ≤ d.size))
    (text : List Char) : d.replace? start stop text = none :=
  dif_neg h

/-- An edit between two such offsets is made, and no other. -/
theorem replace?_eq_some_iff {d d' : Document} {start stop : Nat} {text : List Char} :
    d.replace? start stop text = some d' ↔
      start ≤ stop ∧ stop ≤ d.size ∧
        d'.chars = d.chars.take start ++ text ++ d.chars.drop stop := by
  by_cases hbounds : start ≤ stop ∧ stop ≤ d.size
  · have hreplace : d.replace? start stop text =
        some (ofChars (d.chars.take start ++ text ++ d.chars.drop stop)) := by
      unfold replace?
      rw [dif_pos hbounds, Option.some.injEq, ← ofChars_chars (Document.mk ..)]
    rw [hreplace, Option.some.injEq]
    constructor
    · rintro rfl
      exact ⟨hbounds.1, hbounds.2, rfl⟩
    · rintro ⟨-, -, hchars⟩
      rw [← hchars, ofChars_chars]
  · rw [replace?_of_not hbounds]
    simp only [reduceCtorEq, false_iff]
    exact fun h => hbounds ⟨h.1, h.2.1⟩

/-- What is put in is in the text, so an offset behind it is. -/
theorem le_size_of_replace? {d d' : Document} {start stop : Nat} {text : List Char}
    (h : d.replace? start stop text = some d') : start + text.length ≤ d'.size := by
  obtain ⟨hordered, hwithin, hchars⟩ := replace?_eq_some_iff.1 h
  rw [d.size_eq] at hwithin
  rw [d'.size_eq, hchars, List.length_append, List.length_append, List.length_take]
  omega

/-- A part is replaced between the offsets at its ends, and what is around it stays. -/
theorem replace?_length (before part after text : List Char) :
    (ofChars (before ++ (part ++ after))).replace? before.length (before.length + part.length)
      text = some (ofChars (before ++ (text ++ after))) := by
  refine replace?_eq_some_iff.2 ⟨Nat.le_add_right _ _, ?_, ?_⟩
  · simp [ofChars]
  · change before ++ (text ++ after) = (before ++ (part ++ after)).take before.length ++ text ++
      (before ++ (part ++ after)).drop (before.length + part.length)
    rw [List.take_left, ← List.append_assoc before part, ← List.length_append, List.drop_left,
      List.append_assoc]

/-- **What an edit took out can be put back**, and then the document is what it was. -/
theorem replace?_slice? {d d' : Document} {start stop : Nat} {text : List Char}
    (h : d.replace? start stop text = some d') :
    ∃ part, d.slice? start stop = some part ∧
      d'.replace? start (start + text.length) part = some d := by
  obtain ⟨hordered, hwithin, -⟩ := replace?_eq_some_iff.1 h
  obtain ⟨before, part, after, rfl, rfl, rfl⟩ := exists_parts hordered hwithin
  rw [replace?_length] at h
  obtain rfl := Option.some.inj h
  exact ⟨part, slice?_length before part after, replace?_length before text after part⟩

end Document
end TuneEditor
