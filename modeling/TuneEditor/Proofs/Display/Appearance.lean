/-
# How a drawn view looks on a terminal

What a renderer sends to a terminal with colours is read as the terminal reads
it (`Terminal.feed`).  Of each line in view as much is shown as fits, each of its
characters in the style that the span it is in has in the theme, or plain if it is in
none, with the style of the selection over it if it is selected (`LineShown`).  The
numbers in front are dim and nothing else, the mode line is reversed and nothing
else, and nothing is left of all that at the end of a row (`shown_render`).

Cells of one style go out together, with the escapes for it in front and a reset
behind.  So a piece of the text leaves the terminal plain as it found it, and the
pieces can be looked at one by one: runs of cells (`shows_runs`), rows
(`shows_row`) and the frame (`shows_frame`).  That a character is in no more than
one span comes from the steps of a scan, which follow each other
(`pairwise_filterMap_ofLexemes`).
-/

import TuneEditor.Proofs.Display.Fitting
import TuneEditor.Proofs.Display.Reuse
import TuneEditor.Proofs.Display.Terminal
import TuneEditor.Proofs.Document
import TuneEditor.Proofs.Notation.Partition

namespace TuneEditor

open Terminal (Shows cellsOf)

/-! ### The span of a byte -/

/-- The spans of a line follow each other, since the steps of its scan do. -/
theorem pairwise_plainSpans (enabled : Bool) (lines : List (List Char)) (line : Nat) :
    (Highlighter.plainSpans enabled lines line).Pairwise fun s t => s.stop ≤ t.start := by
  unfold Highlighter.plainSpans
  split
  · rcases List.eq_nil_or_concat (lines.take (line + 1)) with hnil | ⟨init, last, hlast⟩
    · rw [hnil]
      exact .nil
    · rw [hlast, List.concat_eq_append, lastHighlight, List.foldl_append]
      exact pairwise_filterMap_ofLexemes Utf8.size 0 _
  · exact .nil

/-- A span contains its first byte and not the one behind it. -/
theorem Span.contains_iff {s : Span} {pos : Nat} :
    s.contains pos = true ↔ s.start ≤ pos ∧ pos < s.stop := by
  simp [contains]

/-- Of spans that follow each other a position is in one at most. -/
theorem Span.find?_contains {spans : List Span} (h : spans.Pairwise fun s t => s.stop ≤ t.start)
    {span : Span} (hmem : span ∈ spans) {pos : Nat} (hpos : span.contains pos = true) :
    spans.find? (·.contains pos) = some span := by
  induction spans with
  | nil => cases hmem
  | cons s spans ih =>
    obtain ⟨hs, hspans⟩ := List.pairwise_cons.1 h
    rcases List.mem_cons.1 hmem with rfl | hmem
    · exact List.find?_cons_of_pos hpos
    · have hbehind := hs span hmem
      have hnot : ¬ s.contains pos = true := by
        rw [contains_iff] at hpos ⊢
        omega
      rw [List.find?_cons_of_neg (p := fun t : Span => t.contains pos) hnot]
      exact ih hspans hmem

/-- The style of a byte in a line with some spans: that of a span it is in, and plain if it is in
none. -/
def IsStyleAt (theme : Theme) (spans : List Span) (byte : Nat) (style : Style) : Prop :=
  (∀ span ∈ spans, span.contains byte = true → style = theme.style span.tag) ∧
    ((∀ span ∈ spans, span.contains byte = false) → style = .plain)

/-- A cell has the style of its byte, with the selection's over it if it is selected. -/
theorem exists_styleAt (theme : Theme) {spans : List Span}
    (h : spans.Pairwise fun s t => s.stop ≤ t.start) (s : Selection) (byte offset : Nat) :
    ∃ base, IsStyleAt theme spans byte base ∧
      Cell.styleAt theme spans s byte offset =
        if s.start ≤ offset ∧ offset < s.stop then base.overlay theme.selection else base := by
  refine ⟨((spans.find? (·.contains byte)).map fun span => theme.style span.tag).getD .plain,
    ⟨fun span hmem hpos => ?_, fun hnone => ?_⟩, ?_⟩
  · rw [Span.find?_contains h hmem hpos]
    rfl
  · have hfind : spans.find? (·.contains byte) = none :=
      List.find?_eq_none.2 fun span hmem => by simp [hnone span hmem]
    rw [hfind]
    rfl
  · unfold Cell.styleAt
    simp only [Selection.covers, Bool.and_eq_true, decide_eq_true_eq]

/-! ### Cells and rows -/

namespace Cell

/-- How a cell looks on the terminal. -/
def shown (c : Cell) : Char × Attributes :=
  (c.char, .ofStyle c.style)

/-- Runs lose nothing of the cells. -/
theorem flatMap_runs (cells : List Cell) :
    (runs cells).flatMap (fun run => cellsOf (.ofStyle run.1) run.2) = cells.map shown := by
  induction cells with
  | nil => rfl
  | cons c cells ih =>
    rw [runs, List.map_cons, ← ih]
    split
    · next hnil =>
      rw [hnil]
      rfl
    · next style text rest hruns =>
      rw [hruns]
      split
      · next hstyle =>
        rw [← hstyle]
        rfl
      · rfl

/-- Run by run the cells are shown in their styles, and the terminal is plain again behind each
run. -/
theorem shows_runs {s : Screen} (hs : s.color = true) {cells : List Cell}
    (h : ∀ c ∈ cells, c.char ≠ '\x1b') :
    Shows .plain ((runs cells).flatMap fun (style, text) => s.styled style text)
      (cells.map shown) .plain := by
  rw [← flatMap_runs]
  refine Shows.flatMap fun run hrun => Terminal.shows_styled hs run.1 fun hmem => ?_
  have hcell : ('\x1b', Attributes.ofStyle run.1) ∈ cells.map shown := by
    rw [← flatMap_runs]
    exact List.mem_flatMap.2 ⟨run, hrun, List.mem_map.2 ⟨_, hmem, rfl⟩⟩
  obtain ⟨c, hc, hshown⟩ := List.mem_map.1 hcell
  exact h c hc (congrArg Prod.fst hshown)

/-- Each character of a text has a cell, with the style of its byte and its offset. -/
theorem getElem?_ofChars (t : Theme) (spans : List Span) (s : Selection) (byte offset : Nat)
    (cs : List Char) (i : Nat) :
    (ofChars t spans s byte offset cs)[i]? =
      cs[i]?.map fun c => ⟨c, styleAt t spans s (byte + Utf8.size (cs.take i)) (offset + i)⟩ := by
  induction cs generalizing byte offset i with
  | nil => rfl
  | cons c cs ih =>
    cases i with
    | zero => rfl
    | succ i =>
      rw [ofChars, List.getElem?_cons_succ, List.getElem?_cons_succ, ih, List.take_succ_cons,
        Utf8.size_cons, Nat.add_assoc, Nat.add_assoc, Nat.add_comm 1]

/-- The cells of a text have its characters, whatever their styles are. -/
theorem map_char_ofChars (t : Theme) (spans : List Span) (s : Selection) (byte offset : Nat)
    (cs : List Char) : (ofChars t spans s byte offset cs).map char = cs := by
  induction cs generalizing byte offset with
  | nil => rfl
  | cons c cs ih => rw [ofChars, List.map_cons, ih]

end Cell

/-- How a row looks on the terminal: its number dim, and its end plain. -/
def Row.shown (r : Row) : List (Char × Attributes) :=
  cellsOf .dimmed (r.number.getD []) ++ r.cells.map Cell.shown ++ [('\n', .plain)]

/-- There is no escape among what a row says. -/
def Row.EscapeFree (r : Row) : Prop :=
  '\x1b' ∉ r.number.getD [] ∧ ∀ c ∈ r.cells, c.char ≠ '\x1b'

/-- What is shown in one style are the characters that were sent. -/
theorem mem_of_mem_cellsOf {a b : Attributes} {cs : List Char} {c : Char}
    (h : (c, b) ∈ cellsOf a cs) : c ∈ cs := by
  obtain ⟨d, hd, heq⟩ := List.mem_map.1 h
  obtain rfl : d = c := congrArg Prod.fst heq
  exact hd

/-- A newline at the end of a row is plain. -/
theorem shows_newline : Shows .plain ['\n'] [('\n', .plain)] .plain :=
  Terminal.shows_text .plain (by decide)

/-- A row shows its number dim and its cells in their styles, and leaves the terminal plain for the
next row. -/
theorem shows_row {s : Screen} (hs : s.color = true) {r : Row} (h : r.EscapeFree) :
    Shows .plain (r.print s) r.shown .plain := by
  obtain ⟨hnumber, hcells⟩ := h
  refine Shows.append (Shows.append ?_ (Cell.shows_runs hs hcells)) shows_newline
  cases hr : r.number with
  | none => exact .nil .plain
  | some n =>
    rw [hr] at hnumber
    exact Terminal.shows_dim hs hnumber

/-- A frame is printed in pieces that a terminal reads one by one. -/
theorem Frame.print_eq (s : Screen) (f : Frame) :
    f.print s =
      f.rows.flatMap (Row.print s) ++ (s.reverse true ++ f.modeLine ++ s.reverse false) ++
        ['\n'] := by
  unfold print
  simp only [List.append_assoc]

/-- A frame shows its rows and its mode line reversed, and leaves the terminal plain. -/
theorem shows_frame {s : Screen} (hs : s.color = true) {f : Frame}
    (hrows : ∀ r ∈ f.rows, r.EscapeFree) (hmode : '\x1b' ∉ f.modeLine) :
    Shows .plain (f.print s)
      (f.rows.flatMap Row.shown ++ cellsOf .reversed f.modeLine ++ [('\n', .plain)]) .plain := by
  rw [Frame.print_eq]
  exact ((Shows.flatMap fun r hr => shows_row hs (hrows r hr)).append
    (Terminal.shows_reverse hs hmode)).append shows_newline

/-! ### What a view says -/

namespace Renderer

variable {r r' : Renderer}

/-- The number in front of a line, with the blanks around it; nothing if lines are not numbered. -/
def numberText (r : Renderer) (lineCount line : Nat) : List Char :=
  if r.lineNumbers then Text.padLeft (r.gutter lineCount - 1) (Text.ofNat (line + 1)) ++ [' ']
  else []

/-- The number in front of a row is that of its line, or nothing. -/
theorem getD_number_row (r : Renderer) (columns : Nat) (v : View) (line : Nat) :
    (r.row columns v line).number.getD [] = r.numberText v.document.lineCount line := by
  unfold row numberText
  dsimp only
  split
  · rfl
  · rfl

/-- Of a renderer only whether lines are numbered counts for the numbers. -/
theorem numberText_congr (h : r.lineNumbers = r'.lineNumbers) (lineCount line : Nat) :
    r.numberText lineCount line = r'.numberText lineCount line := by
  unfold numberText
  rw [h, gutter_congr h]

/-- Numbers and the blanks around them are fit for a label. -/
theorem isLabel_of_mem_numberText {lineCount line : Nat} {c : Char}
    (h : c ∈ r.numberText lineCount line) : Text.IsLabel c := by
  unfold numberText at h
  split at h
  · rw [Text.padLeft, List.mem_append, List.mem_append] at h
    rcases h with (h | h) | h
    · rw [(List.mem_replicate.1 h).2]
      decide
    · exact Text.isLabel_of_mem_ofNat h
    · rw [List.mem_singleton.1 h]
      decide
  · cases h

/-- A number in front of a line has no control in it. -/
theorem le_toNat_of_mem_numberText {lineCount line : Nat} {c : Char}
    (h : c ∈ r.numberText lineCount line) : 32 ≤ c.toNat :=
  (isLabel_of_mem_numberText h).1

end Renderer

/-- The mode line is the name between labels and numbers. -/
theorem exists_status_eq (v : View) :
    ∃ before behind, (∀ c ∈ before ++ behind, Text.IsLabel c) ∧
      ∀ name, v.status name = before ++ name ++ behind := by
  let modified := (if v.modified then "**" else "--").toList
  let readOnly := (if v.editable then "" else " [read-only]").toList
  have hmodified : ∀ c ∈ modified, Text.IsLabel c := by
    unfold modified
    cases v.modified <;> simp [Text.IsLabel]
  have hreadOnly : ∀ c ∈ readOnly, Text.IsLabel c := by
    unfold readOnly
    cases v.editable <;> simp [Text.IsLabel]
  have hofNat : ∀ n, ∀ c ∈ Text.ofNat n, Text.IsLabel c := fun n c => Text.isLabel_of_mem_ofNat
  refine ⟨modified ++ " abcedit: ".toList,
    readOnly ++ (" L".toList ++ (Text.ofNat (v.cursorLine + 1) ++ (" C".toList ++
      (Text.ofNat (v.document.displayColumn v.head + 1) ++ (" sel ".toList ++
        (Text.ofNat v.selection.start ++ ("..".toList ++
          (Text.ofNat v.selection.stop ++ [' '])))))))), ?_, fun name => ?_⟩
  · simp only [List.forall_mem_append]
    exact ⟨⟨hmodified, by simp [Text.IsLabel]⟩, hreadOnly, by simp [Text.IsLabel], hofNat _,
      by simp [Text.IsLabel], hofNat _, by simp [Text.IsLabel], hofNat _, by simp [Text.IsLabel],
      hofNat _, by simp [Text.IsLabel]⟩
  · simp only [View.status, modified, readOnly, List.append_assoc]

/-- The mode line has no controls in it but those of the name. -/
theorem mem_name_of_mem_status {v : View} {name : List Char} {c : Char}
    (h : c ∈ v.status name) (hc : c.toNat < 32) : c ∈ name := by
  obtain ⟨before, behind, hlabels, hstatus⟩ := exists_status_eq v
  have hnot : c ∉ before ++ behind := fun hmem => Nat.not_le_of_lt hc (hlabels c hmem).1
  rw [List.mem_append, not_or] at hnot
  rw [hstatus] at h
  simpa [hnot.1, hnot.2] using h

/-- Neither has it when it is filled up or cut. -/
theorem mem_name_of_mem_modeLine {columns : Nat} {v : View} {name : List Char} {c : Char}
    (h : c ∈ modeLine columns (v.status name)) (hc : c.toNat < 32) : c ∈ name := by
  refine mem_name_of_mem_status (v := v) ?_ hc
  unfold modeLine at h
  split at h
  · rcases List.mem_append.1 h with h | h
    · exact h
    · rw [(List.mem_replicate.1 h).2] at hc
      exact absurd hc (by decide)
  · exact (fitting_front columns _).subset h

/-- The cells of a row are those of what fits of its line, whatever is known of the line. -/
theorem Renderer.map_char_cells_row (r : Renderer) (columns : Nat) (v : View) (line : Nat) :
    (r.row columns v line).cells.map Cell.char =
      fitting (columns - r.gutter v.document.lineCount) (v.document.lines[line]?.getD []) :=
  Cell.map_char_ofChars ..

/-- A row has no escape in it if there is none in the text. -/
theorem Renderer.escapeFree_row (r : Renderer) {v : View} (h : '\x1b' ∉ v.text)
    (columns line : Nat) : (r.row columns v line).EscapeFree := by
  refine ⟨fun hmem => ?_, fun cell hcell heq => ?_⟩
  · rw [getD_number_row] at hmem
    exact absurd (le_toNat_of_mem_numberText hmem) (by decide)
  · have hmem : '\x1b' ∈ (r.row columns v line).cells.map Cell.char :=
      List.mem_map.2 ⟨cell, hcell, heq⟩
    rw [map_char_cells_row] at hmem
    have hline := (fitting_front _ _).subset hmem
    cases htext : v.document.lines[line]? with
    | none =>
      rw [htext] at hline
      cases hline
    | some text =>
      rw [htext] at hline
      exact h (Document.mem_chars_of_getElem?_lines htext hline)

/-! ### The whole drawing -/

/-- What is to be shown of a line of a view: as much of its text as fits into some columns, each
character with the attributes of one style only, that of its byte by the spans of the line, with the
style of the selection over it if it is selected by its offset in the text. -/
structure LineShown (theme : Theme) (highlight : Bool) (columns : Nat) (v : View) (line : Nat)
    (text : List Char) (cells : List (Char × Attributes)) : Prop where
  line_eq : v.document.lines[line]? = some text
  chars : cells.map Prod.fst = fitting columns text
  attributes : ∀ i c a, cells[i]? = some (c, a) → ∃ offset base,
    v.document.position offset = ⟨line, i⟩ ∧ v.text[offset]? = some c ∧
      IsStyleAt theme (Highlighter.plainSpans highlight v.document.lines line)
        (Utf8.size (text.take i)) base ∧
      ∀ style, a = .ofStyle style ↔
        style =
          if v.selection.start ≤ offset ∧ offset < v.selection.stop then
            base.overlay theme.selection
          else base

/-- A row of a renderer that knows nothing wrong shows its line. -/
theorem lineShown_row {r : Renderer} {v : View} (hright : r.Right v) (columns : Nat) {line : Nat}
    {text : List Char} (hline : v.document.lines[line]? = some text) :
    LineShown r.theme r.highlighter.enabled (columns - r.gutter v.document.lineCount) v line text
      ((r.row columns v line).cells.map Cell.shown) := by
  obtain ⟨start, hstart, -, hoffset⟩ := Document.exists_lineStart hline
  let spans := Highlighter.plainSpans r.highlighter.enabled v.document.lines line
  let drawn := fitting (columns - r.gutter v.document.lineCount) text
  have hcells : (r.row columns v line).cells =
      Cell.ofChars r.theme spans v.selection 0 start drawn := by
    unfold Renderer.row
    rw [Renderer.lineSpans_of_right hright, hline, hstart]
    rfl
  have hspans := pairwise_plainSpans r.highlighter.enabled v.document.lines line
  rw [hcells]
  refine ⟨hline, ?_, fun i c a hcell => ?_⟩
  · rw [List.map_map]
    exact Cell.map_char_ofChars ..
  · rw [List.getElem?_map, Cell.getElem?_ofChars, Option.map_map] at hcell
    obtain ⟨d, hd, hshown⟩ := Option.map_eq_some_iff.1 hcell
    obtain ⟨rfl, rfl⟩ := Prod.mk.inj hshown
    -- What is drawn is the front of the line, so its characters have the same places there.
    obtain ⟨rest, htext⟩ := fitting_front (columns - r.gutter v.document.lineCount) text
    obtain ⟨hi, -⟩ := List.getElem?_eq_some_iff.1 hd
    have htake : drawn.take i = text.take i := by
      rw [← htext]
      exact (List.take_append_of_le_length (Nat.le_of_lt hi)).symm
    have hd' : text[i]? = some d := by
      rw [← htext]
      exact (List.getElem?_append_left hi).trans hd
    have hi' : i ≤ text.length := Nat.le_of_lt (List.getElem?_eq_some_iff.1 hd').1
    obtain ⟨base, hbase, hstyle⟩ :=
      exists_styleAt r.theme hspans v.selection (Utf8.size (text.take i)) (start + i)
    refine ⟨start + i, base, (hoffset i hi').1, (hoffset i hi').2 d hd', hbase, ?_⟩
    intro style
    rw [← hstyle, ← htake, Nat.zero_add]
    exact ⟨fun h => Attributes.ofStyle_inj h.symm, fun h => congrArg Attributes.ofStyle h.symm⟩

namespace LineShown

variable {theme : Theme} {highlight : Bool} {columns line : Nat} {v : View} {text : List Char}
  {cells : List (Char × Attributes)} {c : Char} {a : Attributes}

/-- No newline is shown of a line. -/
theorem ne_newline (h : LineShown theme highlight columns v line text cells) (hc : (c, a) ∈ cells) :
    c ≠ '\n' := by
  rintro rfl
  obtain ⟨-, -, hnewline, -⟩ := Document.exists_lineStart h.line_eq
  have hmem : '\n' ∈ cells.map Prod.fst := List.mem_map.2 ⟨_, hc, rfl⟩
  rw [h.chars] at hmem
  exact hnewline ((fitting_front columns text).subset hmem)

end LineShown

/-- There is a line of the text for every line in view. -/
theorem getElem?_lines_of_mem_visibleLines {v : View} {line : Nat} (h : line ∈ v.visibleLines) :
    ∃ text, v.document.lines[line]? = some text := by
  have hlt : line < v.document.lines.length := by
    rw [Document.length_lines_eq]
    obtain ⟨i, hi, rfl⟩ := List.mem_range'.1 h
    omega
  exact ⟨_, List.getElem?_eq_getElem hlt⟩

namespace Renderer

/-- What is shown of a view: rows, each behind its number, and the mode line. -/
def shown (r : Renderer) (columns : Nat) (v : View) (name : List Char) :
    List (Char × Attributes) :=
  v.visibleLines.flatMap (fun line =>
    cellsOf .dimmed (r.numberText v.document.lineCount line) ++
      (r.row columns v line).cells.map Cell.shown ++ [('\n', .plain)]) ++
    cellsOf .reversed (modeLine columns (v.status name)) ++ [('\n', .plain)]

section

variable {r : Renderer} {v : View} {name : List Char}

/-- A drawing with the rows of a view and its mode line looks as it should, if there is no escape in
the text or the name. -/
theorem shows_print (htext : '\x1b' ∉ v.text) (hname : '\x1b' ∉ name) (columns : Nat) :
    Shows .plain
      (Frame.print ⟨columns, true⟩
        ⟨v.visibleLines.map (r.row columns v), modeLine columns (v.status name)⟩)
      (r.shown columns v name) .plain := by
  have hrows : ∀ line ∈ v.visibleLines, (r.row columns v line).EscapeFree :=
    fun line _ => r.escapeFree_row htext columns line
  have hmode : '\x1b' ∉ modeLine columns (v.status name) :=
    fun hmem => hname (mem_name_of_mem_modeLine hmem (by decide))
  have hrow : ∀ line, (r.row columns v line).shown =
      cellsOf .dimmed (r.numberText v.document.lineCount line) ++
        (r.row columns v line).cells.map Cell.shown ++ [('\n', .plain)] := by
    intro line
    rw [Row.shown, getD_number_row]
  have hshows := shows_frame (s := ⟨columns, true⟩)
    (f := ⟨v.visibleLines.map (r.row columns v), modeLine columns (v.status name)⟩) rfl
    (List.forall_mem_map.2 hrows) hmode
  rw [List.flatMap_map, List.flatMap_congr fun line _ => hrow line] at hshows
  exact hshows

/-- Every newline that is shown is plain: there is none but at the ends of the rows and of the mode
line. -/
theorem plain_of_newline_mem_shown (hright : r.Right v) (hname : '\n' ∉ name) {columns : Nat}
    {a : Attributes} (h : ('\n', a) ∈ r.shown columns v name) : a = .plain := by
  rw [shown, List.mem_append, List.mem_append, List.mem_flatMap] at h
  rcases h with (⟨line, hline, h⟩ | h) | h
  · obtain ⟨text, hline⟩ := getElem?_lines_of_mem_visibleLines hline
    rw [List.mem_append, List.mem_append] at h
    rcases h with (h | h) | h
    · exact absurd (le_toNat_of_mem_numberText (mem_of_mem_cellsOf h)) (by decide)
    · exact absurd rfl ((lineShown_row hright columns hline).ne_newline h)
    · exact (Prod.mk.inj (List.mem_singleton.1 h)).2
  · exact absurd (mem_name_of_mem_modeLine (mem_of_mem_cellsOf h) (by decide)) hname
  · exact (Prod.mk.inj (List.mem_singleton.1 h)).2

end

/-- **A view that is drawn in colour looks as its theme says, and nothing of a style is left behind
the characters that have it.**  On a terminal that is plain at the start each line in view is shown
behind a dim number, the mode line is reversed, every newline is plain, and the terminal is plain at
the end. -/
theorem shown_render (theme : Theme) (lineNumbers highlight : Bool) (columns : Nat) {v : View}
    {name : List Char} (htext : '\x1b' ∉ v.text) (hname : '\x1b' ∉ name)
    (hnewline : '\n' ∉ name) :
    let r := new theme lineNumbers highlight
    let lineCount := v.document.lineCount
    ∃ (shown : List (Char × Attributes)) (cells : Nat → List (Char × Attributes)),
      Terminal.feed {} (r.render ⟨columns, true⟩ v name).1 = ⟨.plain, .text, shown⟩ ∧
        shown =
          v.visibleLines.flatMap (fun line =>
            cellsOf .dimmed (r.numberText lineCount line) ++ cells line ++ [('\n', .plain)]) ++
          cellsOf .reversed (modeLine columns (v.status name)) ++ [('\n', .plain)] ∧
        (∀ line ∈ v.visibleLines, ∃ text,
          LineShown theme highlight (columns - r.gutter lineCount) v line text (cells line)) ∧
        ∀ a, ('\n', a) ∈ shown → a = .plain := by
  intro r lineCount
  let drawn := (r.draw columns v name).2
  have hright : drawn.Right v := right_draw (fun _ => right_of_invalidFrom rfl v) columns name
  obtain ⟨htheme, hnumbers, henabled⟩ := settings_eq_iff.1 (settings_draw r columns v name)
  have hnumber : drawn.numberText v.document.lineCount = r.numberText v.document.lineCount :=
    funext (numberText_congr hnumbers lineCount)
  refine ⟨drawn.shown columns v name, fun line => (drawn.row columns v line).cells.map Cell.shown,
    shows_print htext hname columns [], ?_, fun line hline => ?_,
    fun a => plain_of_newline_mem_shown hright hnewline⟩
  · rw [Renderer.shown, hnumber]
  · obtain ⟨text, hline⟩ := getElem?_lines_of_mem_visibleLines hline
    have hshown := lineShown_row hright columns hline
    rw [htheme, henabled, gutter_congr hnumbers] at hshown
    exact ⟨text, hshown⟩

set_option maxRecDepth 10000 in
/-- A selection from the colon of a key to the first note of the line below, with room for two
characters of each line. -/
theorem shown_render_of_selected :
    let v := (View.new ['K', ':', 'D', '\n', 'A', 'é'] 2).setSelection ⟨1, 5⟩
    let out := ((new {} true true).render ⟨6, true⟩ v ['t']).1
    '\x1b' ∉ v.text ∧ '\x1b' ∉ ['t'] ∧ '\n' ∉ ['t'] ∧
      (∀ a, ('\n', a) ∈ (Terminal.feed {} out).shown → a = .plain) ∧
        (Terminal.feed {} out).attributes = .plain ∧
          (Terminal.feed {} out).shown =
            cellsOf .dimmed [' ', ' ', '1', ' '] ++
              [('K', { foreground := some 12, bold := true }),
                (':', { foreground := some 12, bold := true, reverse := true }), ('\n', .plain)] ++
            cellsOf .dimmed [' ', ' ', '2', ' '] ++
              [('A', { foreground := some 2, reverse := true }), ('é', .plain), ('\n', .plain)] ++
            cellsOf .reversed ['-', '-', ' ', 'a', 'b', 'c'] ++ [('\n', .plain)] := by
  intro v out
  have htext : '\x1b' ∉ v.text := by decide
  have hname : '\x1b' ∉ ['t'] := by decide
  have hnewline : '\n' ∉ ['t'] := by decide
  obtain ⟨shown, cells, hfeed, -, -, hplain⟩ :=
    shown_render {} true true 6 htext hname hnewline
  have hout : ((new {} true true).render ⟨6, true⟩ v ['t']).1 =
      ("\x1b[2m  1 \x1b[22m\x1b[38;5;12m\x1b[1mK\x1b[0m\x1b[38;5;12m\x1b[1m\x1b[7m:\x1b[0m\n" ++
        "\x1b[2m  2 \x1b[22m\x1b[38;5;2m\x1b[7mA\x1b[0mé\n\x1b[7m-- abc\x1b[27m\n").toList := by
    decide +kernel
  change Terminal.feed {} out = _ at hfeed
  refine ⟨htext, hname, hnewline, ?_, ?_, ?_⟩
  · rw [hfeed]
    exact hplain
  · rw [hfeed]
  · change (Terminal.feed {} ((new {} true true).render ⟨6, true⟩ v ['t']).1).shown = _
    rw [hout]
    decide +kernel

end Renderer
end TuneEditor
