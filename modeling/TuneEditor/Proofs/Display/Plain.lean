/-
# What colour adds to a drawing

A drawing in colour is the plain drawing with escapes in it.  An escape is deleted as
a filter for logs does it: the introducer, digits and semicolons behind it, and the
letter `m` (`withoutEscapes`).

| piece | in colour | without its escapes |
|---|---|---|
| a run of cells | between the escapes of its style and a reset | its characters |
| a line number, the mode line | between two escapes | its characters |
| a newline | as it is | a newline |

So a drawing is what the frame says with escapes in it (`Frame.dressed_print`), and it is
put together as the frame is, piece by piece (`Dressed.append`, `Dressed.flatMap`).  What a
frame says (`Frame.plain`) is what is left without the escapes, unless it introduces some
itself (`Dressed.withoutEscapes_eq`).  It is also what is written without colour
(`print_eq_plain`).  It is made of the lines in view, their numbers and the mode line
(`plain_draw`).  Theme, highlighting and what a renderer remembers, right or wrong, make
no difference to it (`render_plain`).
-/

import TuneEditor.Proofs.Display.Appearance

namespace TuneEditor

/-! ### Deleting escapes -/

namespace Terminal

/-- Whether a character may stand between the introducer of an escape and its final letter. -/
def isCode (c : Char) : Bool :=
  c.isDigit || c == ';'

/-- The number of characters of the escape that a text begins with; none if it does not begin with
an escape. -/
def escapeLength : List Char → Nat
  | '\x1b' :: '[' :: cs =>
    let codes := (cs.takeWhile isCode).length
    if cs[codes]? = some 'm' then codes + 3 else 0
  | _ => 0

/-- What is behind some characters of a text, without the escapes in it. -/
def withoutEscapesBehind : Nat → List Char → List Char
  | _, [] => []
  | n + 1, _ :: cs => withoutEscapesBehind n cs
  | 0, c :: cs =>
    match escapeLength (c :: cs) with
    | 0 => c :: withoutEscapesBehind 0 cs
    | n + 1 => withoutEscapesBehind n cs

/-- A text without its escapes. -/
def withoutEscapes (cs : List Char) : List Char :=
  withoutEscapesBehind 0 cs

/-- Characters that are skipped make no difference to what is deleted behind them. -/
theorem withoutEscapesBehind_eq (n : Nat) (cs : List Char) :
    withoutEscapesBehind n cs = withoutEscapes (cs.drop n) := by
  induction cs generalizing n with
  | nil =>
    rw [List.drop_nil]
    cases n with
    | zero => rfl
    | succ n => rfl
  | cons c cs ih =>
    cases n with
    | zero => rfl
    | succ n => exact ih n

/-- A character that does not introduce an escape stays. -/
theorem withoutEscapes_cons_of_ne {c : Char} (h : c ≠ '\x1b') (cs : List Char) :
    withoutEscapes (c :: cs) = c :: withoutEscapes cs := by
  have hlength : escapeLength (c :: cs) = 0 := by
    unfold escapeLength
    split
    · next heq => exact absurd (List.cons.inj heq).1 h
    · rfl
  unfold withoutEscapes
  rw [withoutEscapesBehind, hlength]

/-- An escape goes. -/
theorem withoutEscapes_escape {codes : List Char} (h : ∀ c ∈ codes, isCode c = true)
    (rest : List Char) :
    withoutEscapes ('\x1b' :: '[' :: (codes ++ 'm' :: rest)) = withoutEscapes rest := by
  have hcodes : (codes ++ 'm' :: rest).takeWhile isCode = codes := by
    rw [List.takeWhile_append_of_pos h, List.takeWhile_cons_of_neg (by decide), List.append_nil]
  have hlength :
      escapeLength ('\x1b' :: '[' :: (codes ++ 'm' :: rest)) = codes.length + 2 + 1 := by
    rw [escapeLength, hcodes]
    exact if_pos (by simp)
  rw [withoutEscapes, withoutEscapesBehind, hlength]
  change withoutEscapesBehind (codes.length + 2) _ = _
  rw [withoutEscapesBehind_eq, List.drop_succ_cons, List.drop_length_add_append]
  rfl

/-- Colours, attributes and the reset are escapes; what clears a line is none that is deleted. -/
example :
    withoutEscapes "a\x1b[1;38;5;4mb\x1b[mc\x1b[2Kd".toList = "abc\x1b[2Kd".toList := by
  decide

/-- Between the numbers of an escape are semicolons. -/
theorem isCode_of_mem_codes {codes : List Nat} {c : Char}
    (h : c ∈ ((codes.map Text.ofNat).intersperse [';']).flatten) : isCode c = true := by
  have hdigits : ∀ n, ∀ d ∈ Text.ofNat n, isCode d = true := by
    intro n d hd
    have hdigit : d.isDigit = true := Nat.isDigit_of_mem_toDigits (by decide) (by decide) hd
    rw [isCode, hdigit, Bool.true_or]
  induction codes with
  | nil => cases h
  | cons n codes ih =>
    cases codes with
    | nil =>
      rw [List.map_singleton, List.intersperse_singleton, List.flatten_singleton] at h
      exact hdigits n c h
    | cons m codes =>
      rw [List.map_cons] at ih
      rw [List.map_cons, List.map_cons, List.intersperse_cons_cons, List.flatten_cons,
        List.flatten_cons, List.mem_append, List.mem_append, List.mem_singleton] at h
      rcases h with h | rfl | h
      · exact hdigits n c h
      · rfl
      · exact ih h

/-- Every escape that is sent is one that is deleted. -/
theorem withoutEscapes_chars (e : Escape) (rest : List Char) :
    withoutEscapes (e.chars ++ rest) = withoutEscapes rest := by
  rw [Escape.chars, List.append_assoc, List.append_assoc]
  exact withoutEscapes_escape (fun c hc => isCode_of_mem_codes hc) rest

/-! ### Texts with escapes in them -/

/-- `Dressed out text`: what is sent, `out`, is the text `text` with escapes in it. -/
inductive Dressed : List Char → List Char → Prop
  /-- Of nothing, nothing is sent. -/
  | nil : Dressed [] []
  /-- A character of the text is sent as it is. -/
  | char (c : Char) {out text : List Char} : Dressed out text → Dressed (c :: out) (c :: text)
  /-- An escape is sent that is not of the text. -/
  | escape (e : Escape) {out text : List Char} : Dressed out text → Dressed (e.chars ++ out) text

section

variable {out out' text text' : List Char}

/-- **Without the escapes the text is left**, if it introduces none itself. -/
theorem Dressed.withoutEscapes_eq (h : Dressed out text) (htext : '\x1b' ∉ text) :
    withoutEscapes out = text := by
  induction h with
  | nil => rfl
  | char c _ ih =>
    rw [List.mem_cons, not_or] at htext
    rw [withoutEscapes_cons_of_ne (Ne.symm htext.1), ih htext.2]
  | escape e _ ih =>
    rw [withoutEscapes_chars]
    exact ih htext

/-- Texts with escapes in them are put together with the escapes between them. -/
theorem Dressed.append (h : Dressed out text) (h' : Dressed out' text') :
    Dressed (out ++ out') (text ++ text') := by
  induction h with
  | nil => exact h'
  | char c _ ih => exact ih.char c
  | escape e _ ih =>
    rw [List.append_assoc]
    exact ih.escape e

/-- Pieces with escapes in them make up a whole with escapes in it. -/
theorem Dressed.flatMap {α : Type} {pieces : List α} {sent said : α → List Char}
    (h : ∀ p ∈ pieces, Dressed (sent p) (said p)) :
    Dressed (pieces.flatMap sent) (pieces.flatMap said) := by
  induction pieces with
  | nil => exact .nil
  | cons p pieces ih =>
    rw [List.flatMap_cons, List.flatMap_cons]
    exact (h p List.mem_cons_self).append (ih fun q hq => h q (List.mem_cons_of_mem _ hq))

/-- A text needs no escapes. -/
theorem dressed_text (cs : List Char) : Dressed cs cs := by
  induction cs with
  | nil => exact .nil
  | cons c cs ih => exact ih.char c

/-- Escapes alone say nothing. -/
theorem dressed_escapes (es : List Escape) : Dressed (es.flatMap Escape.chars) [] := by
  induction es with
  | nil => exact .nil
  | cons e es ih => exact ih.escape e

/-- An escape says nothing, whether the screen takes it or not. -/
theorem dressed_escape (s : Screen) (e : Escape) : Dressed (s.escape e) [] := by
  unfold Screen.escape
  split
  · simpa using dressed_escapes [e]
  · exact .nil

/-- A text between two escapes. -/
theorem dressed_between (s : Screen) (e e' : Escape) (cs : List Char) :
    Dressed (s.escape e ++ cs ++ s.escape e') cs := by
  have hall := ((dressed_escape s e).append (dressed_text cs)).append (dressed_escape s e')
  rw [List.nil_append, List.append_nil] at hall
  exact hall

/-- A style only adds escapes. -/
theorem dressed_styled (s : Screen) (style : Style) (cs : List Char) :
    Dressed (s.styled style cs) cs := by
  unfold Screen.styled
  split
  · exact dressed_text cs
  · have hreset : Dressed (Escape.chars .reset) [] := by simpa using dressed_escapes [.reset]
    have hall := ((dressed_escapes style.escapes).append (dressed_text cs)).append hreset
    rw [List.nil_append, List.append_nil] at hall
    exact hall

end

end Terminal

open Terminal (Dressed withoutEscapes)

/-! ### What a frame says -/

/-- The characters of a row, with its number and its end. -/
def Row.plain (r : Row) : List Char :=
  r.number.getD [] ++ r.cells.map Cell.char ++ ['\n']

/-- The characters of a frame. -/
def Frame.plain (f : Frame) : List Char :=
  f.rows.flatMap Row.plain ++ f.modeLine ++ ['\n']

/-- The characters of the runs are those of the cells. -/
theorem Cell.flatMap_snd_runs (cells : List Cell) :
    (runs cells).flatMap Prod.snd = cells.map char := by
  have hrun : ∀ run : Style × List Char,
      (Terminal.cellsOf (.ofStyle run.1) run.2).map Prod.fst = run.2 :=
    fun run => (List.map_map ..).trans (List.map_id _)
  have hall := congrArg (List.map Prod.fst) (flatMap_runs cells)
  rw [List.map_flatMap, List.map_map, funext hrun] at hall
  exact hall

section

variable {s : Screen} {f : Frame}

/-- Without colour nothing is sent to begin or end a style. -/
theorem Screen.escape_of_not_color (hs : s.color = false) (e : Escape) : s.escape e = [] := by
  unfold escape
  rw [hs]
  rfl

/-- Without colour a styled text is the text. -/
theorem Screen.styled_of_not_color (hs : s.color = false) (style : Style) (cs : List Char) :
    s.styled style cs = cs := by
  unfold styled
  rw [hs]
  rfl

/-- **Without colour a row is printed as what it says**, in whatever styles. -/
theorem Row.print_eq_plain (hs : s.color = false) (r : Row) : r.print s = r.plain := by
  unfold print plain
  simp only [Screen.styled_of_not_color hs, Screen.dim, Screen.escape_of_not_color hs]
  rw [← Cell.flatMap_snd_runs]
  cases r.number with
  | none => rfl
  | some n => simp only [List.nil_append, List.append_nil, Option.getD_some]

/-- Without colour a frame is printed as what it says. -/
theorem Frame.print_eq_plain (hs : s.color = false) (f : Frame) : f.print s = f.plain := by
  have hrow : Row.print s = Row.plain := funext (Row.print_eq_plain hs)
  unfold print plain
  rw [hrow, Screen.reverse, Screen.reverse, Screen.escape_of_not_color hs,
    Screen.escape_of_not_color hs, List.append_nil, List.append_nil]

/-- The styles of its cells only add escapes to what a row says. -/
theorem Row.dressed_print (s : Screen) (r : Row) : Dressed (r.print s) r.plain := by
  have hruns : Dressed ((Cell.runs r.cells).flatMap fun run => s.styled run.1 run.2)
      (r.cells.map Cell.char) := by
    rw [← Cell.flatMap_snd_runs]
    exact .flatMap fun run _ => Terminal.dressed_styled s run.1 run.2
  refine (Dressed.append ?_ hruns).append (Terminal.dressed_text _)
  cases r.number with
  | none => exact .nil
  | some n => exact Terminal.dressed_between s _ _ n

/-- **A drawing is what its frame says, with escapes in it.** -/
theorem Frame.dressed_print (s : Screen) (f : Frame) : Dressed (f.print s) f.plain := by
  rw [Frame.print_eq]
  exact ((Dressed.flatMap fun r _ => r.dressed_print s).append
    (Terminal.dressed_between s _ _ f.modeLine)).append (Terminal.dressed_text _)

/-- Nothing that a frame says begins an escape. -/
theorem Frame.notMem_plain (hrows : ∀ r ∈ f.rows, r.EscapeFree) (hmode : '\x1b' ∉ f.modeLine) :
    '\x1b' ∉ f.plain := by
  have hrow : ∀ r ∈ f.rows, '\x1b' ∉ r.plain := by
    intro r hr
    obtain ⟨hnumber, hcells⟩ := hrows r hr
    simpa [Row.plain, hnumber] using hcells
  simpa [plain, hmode] using hrow

end

namespace Renderer

variable {r r' : Renderer}

/-- **What a drawing says** is in the view but for the number in front of a line: as much of each
line in view as fits, and the mode line. -/
theorem plain_draw (r : Renderer) (columns : Nat) (v : View) (name : List Char) :
    (r.draw columns v name).1.plain =
      v.visibleLines.flatMap (fun line =>
        r.numberText v.document.lineCount line ++
          fitting (columns - r.gutter v.document.lineCount) (v.document.lines[line]?.getD []) ++
            ['\n']) ++
        modeLine columns (v.status name) ++ ['\n'] := by
  let drawn := (r.draw columns v name).2
  have hnumbers : drawn.lineNumbers = r.lineNumbers :=
    (settings_eq_iff.1 (settings_draw r columns v name)).2.1
  have hrow : ∀ line, (drawn.row columns v line).plain =
      r.numberText v.document.lineCount line ++
        fitting (columns - r.gutter v.document.lineCount) (v.document.lines[line]?.getD []) ++
          ['\n'] := by
    intro line
    rw [Row.plain, getD_number_row, map_char_cells_row, numberText_congr hnumbers,
      gutter_congr hnumbers]
  change (v.visibleLines.map (drawn.row columns v)).flatMap Row.plain ++ _ ++ _ = _
  rw [List.flatMap_map, List.flatMap_congr fun line _ => hrow line]
  rfl

/-- Nothing of a renderer is in it but whether lines are numbered. -/
theorem plain_draw_congr (h : r.lineNumbers = r'.lineNumbers) (columns : Nat) (v : View)
    (name : List Char) :
    (r.draw columns v name).1.plain = (r'.draw columns v name).1.plain := by
  have hnumber : r.numberText v.document.lineCount = r'.numberText v.document.lineCount :=
    funext (numberText_congr h _)
  rw [plain_draw, plain_draw, hnumber, gutter_congr h]

/-- What a drawing says introduces no escape that is not in the text or the name. -/
theorem escape_notMem_plain_draw (r : Renderer) (columns : Nat) {v : View} {name : List Char}
    (htext : '\x1b' ∉ v.text) (hname : '\x1b' ∉ name) :
    '\x1b' ∉ (r.draw columns v name).1.plain :=
  Frame.notMem_plain (List.forall_mem_map.2 fun line _ => escapeFree_row _ htext columns line)
    fun hmem => hname (mem_name_of_mem_modeLine hmem (by decide))

/-- **Colour only adds escapes, and plain output leaks no styling.**  Without colour any two
renderers that both number lines or both do not write the same, whatever their themes are, whether
they highlight, and whatever they remember, out of date or not.  If there is no escape in the text
or the name, there is none in what they write, and it is what either of them writes in colour
without the escapes. -/
theorem render_plain (h : r.lineNumbers = r'.lineNumbers) (columns : Nat) (v : View)
    (name : List Char) :
    let plain := (r.render ⟨columns, false⟩ v name).1
    (r'.render ⟨columns, false⟩ v name).1 = plain ∧
      ('\x1b' ∉ v.text → '\x1b' ∉ name →
        '\x1b' ∉ plain ∧ withoutEscapes (r'.render ⟨columns, true⟩ v name).1 = plain) := by
  intro plain
  have hplain : plain = (r'.draw columns v name).1.plain :=
    (Frame.print_eq_plain rfl _).trans (plain_draw_congr h columns v name)
  refine ⟨(Frame.print_eq_plain rfl _).trans hplain.symm, fun htext hname => ?_⟩
  have hfree := r'.escape_notMem_plain_draw columns htext hname
  rw [hplain]
  exact ⟨hfree, (Frame.dressed_print _ _).withoutEscapes_eq hfree⟩

set_option maxRecDepth 10000 in
/-- A selection drawn by a renderer that takes the spans of another text for those of this one, and
by one that does not highlight. -/
theorem render_plain_of_stale :
    let v := (View.new ['K', ':', 'D', '\n', 'A', 'é'] 2).setSelection ⟨1, 5⟩
    let other := View.new ['A', 'B', '\n', 'X', ':'] 2
    let stale := ((new {} true true).render ⟨6, true⟩ other ['t']).2
    let plain := "  1 K:\n  2 Aé\n-- abc\n".toList
    stale.revision = some v.revision ∧ (new {} true false).lineNumbers = stale.lineNumbers ∧
      (stale.render ⟨6, false⟩ v ['t']).1 = plain ∧
        withoutEscapes (stale.render ⟨6, true⟩ v ['t']).1 = plain := by
  intro v other stale plain
  have hnumbers : (new {} true false).lineNumbers = stale.lineNumbers := by rfl
  have htext : '\x1b' ∉ v.text := by decide
  have hname : '\x1b' ∉ ['t'] := by decide
  have hplain : ((new {} true false).render ⟨6, false⟩ v ['t']).1 = plain := by
    decide +kernel
  obtain ⟨hsame, hcolour⟩ := render_plain hnumbers 6 v ['t']
  refine ⟨by rfl, hnumbers, hsame.trans hplain, (hcolour htext hname).2.trans hplain⟩

end Renderer
end TuneEditor
