/-
# The arithmetic of a view in words of 64 bits

The numbers of a view have no end, and a difference of them stops at zero.  In a word
of 64 bits a sum may have no room, and a difference may be below zero.  `Checked` has
the operations of a view once more with every sum and every difference checked, and
an `Overflow` is what comes of them if a check fails.  Only the differences that are
meant to stop at zero do so.

| what is worked out | where |
|---|---|
| the line below the viewport | looking for a line, following the cursor, scrolling, drawing |
| the line below the cursor, less the height | following the cursor |
| the line below the margin, less the height | scrolling |
| the offset before a caret | deleting backward |
| the size of a text, less a part of it, and with another text | typing, deleting, a new text |
| lines and columns, and how many lines there are | wherever a line is asked for |

No check ever fails, and then the checked operations do what the operations do
(`Checked.act_eq_ok`, `Checked.run_eq_ok`).  This is not for want of large numbers, for a
height may be the largest word.  But a viewport is brought down only until its last row
is at a line of the text as it is then, and a text has fewer characters than half of the
words.  So a viewport that does not begin at the first line ends in that half, whatever
becomes of the text (`Fits`).

The number of changes is not checked.  It says nothing about a viewport, and only
grows by one.
-/

import Mathlib.Data.List.Infix
import TuneEditor.Display.Renderer
import TuneEditor.Proofs.View.Following

namespace TuneEditor

/-- What can go wrong with a sum or a difference. -/
inductive Overflow
  /-- The sum has no room in a word. -/
  | above
  /-- The difference is below zero. -/
  | below
  deriving DecidableEq, Repr

namespace Checked

/-- A sum, which has to have room in a word. -/
def add (a b : Nat) : Except Overflow Nat :=
  if a + b < 2 ^ 64 then .ok (a + b) else .error .above

/-- A difference, which must not be below zero. -/
def sub (a b : Nat) : Except Overflow Nat :=
  if b ≤ a then .ok (a - b) else .error .below

/-! ### The text -/

/-- The position behind one more character. -/
def advance (p : Position) (c : Char) : Except Overflow Position := do
  if c = '\n' then return ⟨← add p.line 1, 0⟩ else return ⟨p.line, ← add p.column 1⟩

/-- The line and column of an offset, counted character by character. -/
def position (d : Document) (offset : Nat) : Except Overflow Position :=
  (d.chars.take offset).foldlM advance {}

/-- The number of lines. -/
def lineCount (d : Document) : Except Overflow Nat :=
  add (d.chars.count '\n') 1

/-- The document of some characters, if that is the number of them. -/
def counted? (chars : List Char) (size : Nat) : Option Document :=
  if h : size = chars.length then some ⟨chars, size, h⟩ else none

/-- The document with a text in place of what is between two offsets.  Its size is worked out from
the one before; it is not counted again. -/
def replace? (d : Document) (start stop : Nat) (text : List Char) :
    Except Overflow (Option Document) := do
  if start ≤ stop ∧ stop ≤ d.size then
    let taken ← sub stop start
    let left ← sub d.size taken
    let size ← add left text.length
    return counted? (d.chars.take start ++ text ++ d.chars.drop stop) size
  else return none

/-! ### The viewport -/

/-- Whether a line is in view. -/
def isLineVisible (v : View) (line : Nat) : Except Overflow Bool := do
  if v.topLine ≤ line then
    let bottom ← add v.topLine v.height
    return line < bottom
  else return false

/-- The lines in the viewport, as they are drawn.  There are none if the text ends above it. -/
def visibleLines (v : View) : Except Overflow (List Nat) := do
  let bottom ← add v.topLine v.height
  return List.range' v.topLine (min bottom v.document.lineCount - v.topLine)

/-- The lowest position of the viewport.  There may be fewer lines than rows, so the difference stops
at zero. -/
def maxTopLine (v : View) : Except Overflow Nat := do
  let lines ← lineCount v.document
  return lines - v.height

/-- The viewport moved as little as brings the line of the cursor into view. -/
def ensureCursorVisible (v : View) : Except Overflow View := do
  let cursor ← position v.document v.head
  if cursor.line < v.topLine then return { v with topLine := cursor.line }
  else
    let bottom ← add v.topLine v.height
    if bottom ≤ cursor.line then
      let next ← add cursor.line 1
      let topLine ← sub next v.height
      return { v with topLine }
    else return v

/-- A viewport of another height. -/
def setHeight (v : View) (height : Nat) : Except Overflow View := do
  let v := { v with height := max height 1 }
  let lowest ← maxTopLine v
  return { v with topLine := min v.topLine lowest }

/-- Where the viewport has to begin for a line to be in view.  There may be no row but one, and fewer
lines above than half of the rows or than the margin, so these differences stop at zero. -/
def topLineFor (v : View) (line : Nat) (o : Scroll) : Except Overflow Nat := do
  if o.centered then return line - v.height / 2
  else
    let margin := min o.margin ((v.height - 1) / 2)
    let inner ← add v.topLine margin
    if line < inner then return line - margin
    else
      let last ← add line margin
      let bottom ← add v.topLine v.height
      if bottom ≤ last then
        let next ← add last 1
        sub next v.height
      else return v.topLine

/-- Brings the line where a selection starts into view. -/
def scrollIntoView (v : View) (s : Selection) (o : Scroll) : Except Overflow View := do
  if v.alive then
    let start ← position v.document s.start
    let topLine ← topLineFor v start.line o
    let lowest ← maxTopLine v
    return { v with topLine := min topLine lowest }
  else return v

/-! ### Selecting and editing -/

/-- Selects as a user does. -/
def select (v : View) (anchor head : Nat) : Except Overflow View :=
  if v.alive then
    ensureCursorVisible
      (v.applySelection (min anchor v.document.size) (min head v.document.size))
  else .ok v

/-- An edit by the user. -/
def edit? (v : View) (s : Selection) (text : List Char) : Except Overflow (Option View) := do
  if v.alive && v.editable then
    match ← replace? v.document s.start s.stop text with
    | some d =>
      let caret ← add s.start text.length
      let v ← ensureCursorVisible ((v.changeDocument d).applySelection caret caret)
      return some v
    | none => return none
  else return none

/-- Deletes the selection, or the character before a caret. -/
def deleteBackward? (v : View) : Except Overflow (Option View) := do
  let s := v.selection
  if s.isEmpty then
    if s.start = 0 then return none
    else
      let before ← sub s.start 1
      edit? v ⟨before, s.start⟩ []
  else edit? v s []

/-- Another text in place of the whole one. -/
def replaceAll (v : View) (text : List Char) : Except Overflow View := do
  if v.alive then
    let d ← replace? v.document 0 v.document.size text
    let v := v.changeDocument (d.getD v.document)
    let lowest ← maxTopLine v
    return { v with
      anchor := min v.anchor v.document.size
      head := min v.head v.document.size
      topLine := min v.topLine lowest }
  else return v

/-! ### Commands -/

/-- The view after a command.  Those that are not named here work nothing out. -/
def act (v : View) : View.Command → Except Overflow View
  | .insert text => return (← edit? v v.selection text).getD v
  | .deleteBackward => return (← deleteBackward? v).getD v
  | .moveCursor offset => select v offset offset
  | .select anchor head => select v anchor head
  | .setHeight height => setHeight v height
  | .ensureCursorVisible => ensureCursorVisible v
  | .replaceAll text => replaceAll v text
  | .scrollIntoView s o => scrollIntoView v s o
  | c => .ok (v.act c)

/-- The view after some commands. -/
def run (v : View) (commands : List View.Command) : Except Overflow View :=
  commands.foldlM act v

/-! ### Sums and differences that are words -/

/-- A sum with room in a word passes its check. -/
theorem add_eq_ok {a b : Nat} (h : a + b < 2 ^ 64) : add a b = .ok (a + b) :=
  if_pos h

/-- So does a difference that is not below zero. -/
theorem sub_eq_ok {a b : Nat} (h : b ≤ a) : sub a b = .ok (a - b) :=
  if_pos h

/-- What comes behind a check that is passed goes on with its number. -/
theorem ok_bind {α β : Type} (a : α) (f : α → Except Overflow β) : (Except.ok a >>= f) = f a :=
  rfl

/-- One character farther passes if there is room for one more line and one more column. -/
theorem advance_eq_ok {p : Position} (c : Char) (hline : p.line + 1 < 2 ^ 64)
    (hcolumn : p.column + 1 < 2 ^ 64) : advance p c = .ok (p.advance c) := by
  unfold advance Position.advance
  split
  · rw [add_eq_ok hline]
    rfl
  · rw [add_eq_ok hcolumn]
    rfl

/-- A line and a column are no farther than the characters that were passed, so they can be counted
in words. -/
theorem foldlM_advance {cs : List Char} {p : Position} (hline : p.line + cs.length < 2 ^ 64)
    (hcolumn : p.column + cs.length < 2 ^ 64) :
    cs.foldlM advance p = .ok (cs.foldl Position.advance p) := by
  induction cs generalizing p with
  | nil => rfl
  | cons c cs ih =>
    rw [List.length_cons] at hline hcolumn
    obtain ⟨hline', hcolumn'⟩ := p.advance_le c
    rw [List.foldlM_cons, List.foldl_cons, advance_eq_ok c (by omega) (by omega), ok_bind]
    exact ih (by omega) (by omega)

variable {d : Document}

/-- In a text of less than half of the words every offset has its position: neither line nor column
gets ahead of the characters passed. -/
theorem position_eq_ok (h : d.size < 2 ^ 63) (offset : Nat) :
    position d offset = .ok (d.position offset) := by
  have hlength : (d.chars.take offset).length ≤ d.size := by
    rw [d.size_eq]
    exact List.length_take_le' _ _
  exact foldlM_advance (by dsimp only; omega) (by dsimp only; omega)

/-- The lines of such a text can be counted, as there are no more of them than characters and
one. -/
theorem lineCount_eq_ok (h : d.size < 2 ^ 63) : lineCount d = .ok d.lineCount := by
  have hle := d.lineCount_le
  unfold Document.lineCount at hle
  exact add_eq_ok (by omega)

/-- The size that a document is made with is the number of its characters. -/
theorem counted?_length (cs : List Char) : counted? cs cs.length = some (.ofChars cs) :=
  dif_pos rfl

/-- The size that is worked out is the number of characters, so it is a word if that is one. -/
theorem replace?_eq_ok {start stop : Nat} {text : List Char}
    (h : ∀ d' ∈ d.replace? start stop text, d'.size < 2 ^ 63) :
    replace? d start stop text = .ok (d.replace? start stop text) := by
  unfold replace?
  by_cases hbounds : start ≤ stop ∧ stop ≤ d.size
  · obtain ⟨hordered, hwithin⟩ := hbounds
    have hmade : d.replace? start stop text =
        some (.ofChars (d.chars.take start ++ text ++ d.chars.drop stop)) :=
      Document.replace?_eq_some_iff.2 ⟨hordered, hwithin, rfl⟩
    have hsize : d.size - (stop - start) + text.length =
        (d.chars.take start ++ text ++ d.chars.drop stop).length := by
      have := d.size_eq
      simp only [List.length_append, List.length_take, List.length_drop]
      omega
    have hroom : d.size - (stop - start) + text.length < 2 ^ 63 := by
      rw [hsize]
      exact h _ hmade
    rw [if_pos ⟨hordered, hwithin⟩, sub_eq_ok hordered, ok_bind, sub_eq_ok (by omega), ok_bind,
      add_eq_ok (by omega), ok_bind, hsize, counted?_length, hmade]
    rfl
  · rw [if_neg hbounds, Document.replace?_of_not hbounds]
    rfl

end Checked

/-! ### Where the viewport is -/

namespace View

/-- The numbers of a view leave room in words for what is worked out from them.  Its height is any
word, and if its viewport begins below the first line, it does not reach beyond the half of the
words. -/
structure Fits (v : View) : Prop where
  size_lt : v.document.size < 2 ^ 63
  height_lt : v.height < 2 ^ 64
  topLine_eq_zero_or : v.topLine = 0 ∨ v.topLine + v.height ≤ 2 ^ 63

variable {v v' : View}

namespace Fits

/-- A text that fits has no more lines than half of the words. -/
theorem lineCount_le (h : v.Fits) : v.document.lineCount ≤ 2 ^ 63 :=
  Nat.le_trans v.document.lineCount_le h.size_lt

/-- So every position in it is on a line below that. -/
theorem line_lt (h : v.Fits) (offset : Nat) : (v.document.position offset).line < 2 ^ 63 :=
  Nat.lt_of_lt_of_le (v.document.line_position_lt offset) h.lineCount_le

/-- The line below the viewport is a word. -/
theorem bottom_lt (h : v.Fits) : v.topLine + v.height < 2 ^ 64 := by
  have hheight := h.height_lt
  have htop := h.topLine_eq_zero_or
  omega

/-- The margin that is kept is at most half of the rows. -/
theorem keptMargin_lt (h : v.Fits) (o : Scroll) : v.keptMargin o < 2 ^ 63 := by
  have hheight := h.height_lt
  unfold keptMargin
  omega

/-- A viewport no lower than the lowest position begins at the first line or has all its rows in the
text. -/
theorem of_le_maxTopLine (hsize : v.document.size < 2 ^ 63) (hheight : v.height < 2 ^ 64)
    (hmax : v.topLine ≤ v.maxTopLine) : v.Fits := by
  have hlines := v.document.lineCount_le
  unfold maxTopLine at hmax
  exact ⟨hsize, hheight, by omega⟩

end Fits

/-- A fresh view begins at the first line, so any height leaves room. -/
theorem fits_new {text : List Char} {height : Nat} (htext : text.length < 2 ^ 63)
    (hheight : height < 2 ^ 64) : (new text height).Fits :=
  .of_le_maxTopLine htext (max_lt hheight (by omega)) (Nat.zero_le _)

/-- Following the cursor down puts its line into the last row, and following it up begins the
viewport above where it had room. -/
theorem fits_ensureCursorVisible (h : v.Fits) : v.ensureCursorVisible.Fits := by
  have hcursor : v.cursorLine < 2 ^ 63 := h.line_lt v.head
  have htop := h.topLine_eq_zero_or
  unfold ensureCursorVisible
  split
  · exact { h with topLine_eq_zero_or := by dsimp only; omega }
  · split
    · exact { h with topLine_eq_zero_or := by dsimp only; omega }
    · exact h

/-- A selection moves no viewport. -/
theorem fits_applySelection (h : v.Fits) (anchor head : Nat) :
    (v.applySelection anchor head).Fits := by
  rw [applySelection_eq]
  exact { h with }

/-- Selecting moves the viewport only as far as following the cursor does. -/
theorem fits_select (h : v.Fits) (anchor head : Nat) : (v.select anchor head).Fits := by
  unfold select
  split
  · exact fits_ensureCursorVisible (fits_applySelection h _ _)
  · exact h

/-- A new height that is a word leaves room, since the viewport is moved up to the lowest position
if it was below. -/
theorem fits_setHeight (h : v.Fits) {height : Nat} (hheight : height < 2 ^ 64) :
    (v.setHeight height).Fits :=
  .of_le_maxTopLine h.size_lt (max_lt hheight (by omega)) (Nat.min_le_right _ _)

/-- Scrolling ends no lower than the lowest position. -/
theorem fits_scrollIntoView (h : v.Fits) (s : Selection) (o : Scroll) :
    (v.scrollIntoView s o).Fits := by
  unfold scrollIntoView
  split
  · exact .of_le_maxTopLine h.size_lt h.height_lt (Nat.min_le_right _ _)
  · exact h

/-- A new text is short enough by assumption, and the viewport is moved up to the lowest position in
it. -/
theorem fits_replaceAll (h : v.Fits) {text : List Char}
    (hsize : (v.replaceAll text).document.size < 2 ^ 63) : (v.replaceAll text).Fits := by
  unfold replaceAll at hsize ⊢
  split at hsize
  · next halive =>
    rw [if_pos halive]
    exact .of_le_maxTopLine hsize h.height_lt (Nat.min_le_right _ _)
  · next hdead =>
    rw [if_neg hdead]
    exact h

/-- An edit that leaves the text short enough moves the viewport as the cursor does. -/
theorem fits_edit? (h : v.Fits) {part : Selection} {text : List Char}
    (hedit : v.edit? part text = some v') (hsize : v'.document.size < 2 ^ 63) : v'.Fits := by
  unfold edit? at hedit
  split at hedit
  · obtain ⟨d, -, rfl⟩ := Option.map_eq_some_iff.1 hedit
    dsimp only at hsize ⊢
    rw [document_followed] at hsize
    have hchanged : (v.changeDocument d).Fits := { h with size_lt := hsize }
    exact fits_ensureCursorVisible (fits_applySelection hchanged _ _)
  · cases hedit

/-- Backspace is such an edit. -/
theorem fits_deleteBackward? (h : v.Fits) (hdelete : v.deleteBackward? = some v')
    (hsize : v'.document.size < 2 ^ 63) : v'.Fits := by
  obtain ⟨part, hedit⟩ := edit?_of_deleteBackward? hdelete
  exact fits_edit? h hedit hsize

/-- **Whatever is done to a view, its numbers go on to leave room**, as long as its text is short
enough. -/
theorem fits_act {c : Command} (h : v.Fits)
    (hheight : ∀ height, c = .setHeight height → height < 2 ^ 64)
    (hsize : (v.act c).document.size < 2 ^ 63) : (v.act c).Fits := by
  cases c with
  | insert text =>
    rw [act_insert] at hsize ⊢
    cases hedit : v.insert? text with
    | none => exact h
    | some v' =>
      rw [hedit] at hsize
      exact fits_edit? h hedit hsize
  | deleteBackward =>
    rw [act_deleteBackward] at hsize ⊢
    cases hdelete : v.deleteBackward? with
    | none => exact h
    | some v' =>
      rw [hdelete] at hsize
      exact fits_deleteBackward? h hdelete hsize
  | moveCursor offset => exact fits_select h offset offset
  | select anchor head => exact fits_select h anchor head
  | setHeight height => exact fits_setHeight h (hheight height rfl)
  | ensureCursorVisible => exact fits_ensureCursorVisible h
  | replaceAll text => exact fits_replaceAll h hsize
  | setSelection s =>
    change (v.setSelection s).Fits
    unfold setSelection
    split
    · exact fits_applySelection h _ _
    · exact h
  | scrollIntoView s o => exact fits_scrollIntoView h s o
  | focus =>
    change v.focus.Fits
    unfold focus
    split
    · exact { h with }
    · exact h
  | setEditable editable => exact { h with }
  | destroy => exact { h with }
  | drain => exact { h with }

end View

/-! ### No check fails -/

namespace Checked

variable {v : View}

/-- Whether a line is in view is told from the line below the viewport, which is a word. -/
theorem isLineVisible_eq_ok (h : v.Fits) (line : Nat) :
    isLineVisible v line = .ok (v.isLineVisible line) := by
  unfold isLineVisible View.isLineVisible
  by_cases hle : v.topLine ≤ line
  · rw [if_pos hle, add_eq_ok h.bottom_lt, ok_bind, decide_eq_true hle, Bool.true_and]
    rfl
  · rw [if_neg hle, decide_eq_false hle, Bool.false_and]
    rfl

/-- So are the lines to draw. -/
theorem visibleLines_eq_ok (h : v.Fits) : visibleLines v = .ok v.visibleLines := by
  unfold visibleLines
  rw [add_eq_ok h.bottom_lt]
  rfl

/-- The lowest position of the viewport comes of the number of lines. -/
theorem maxTopLine_eq_ok (hsize : v.document.size < 2 ^ 63) :
    maxTopLine v = .ok v.maxTopLine := by
  unfold maxTopLine
  rw [lineCount_eq_ok hsize]
  rfl

/-- The line below the cursor is no less than the height where the cursor is below the viewport. -/
theorem ensureCursorVisible_eq_ok (h : v.Fits) :
    ensureCursorVisible v = .ok v.ensureCursorVisible := by
  have hcursor : v.cursorLine < 2 ^ 63 := h.line_lt v.head
  have hline : (v.document.position v.head).line = v.cursorLine := rfl
  unfold ensureCursorVisible View.ensureCursorVisible
  rw [position_eq_ok h.size_lt, ok_bind, hline]
  by_cases habove : v.cursorLine < v.topLine
  · rw [if_pos habove, if_pos habove]
    rfl
  · rw [if_neg habove, if_neg habove, add_eq_ok h.bottom_lt, ok_bind]
    by_cases hbelow : v.topLine + v.height ≤ v.cursorLine
    · rw [if_pos hbelow, if_pos hbelow, add_eq_ok (by omega), ok_bind, sub_eq_ok (by omega)]
      rfl
    · rw [if_neg hbelow, if_neg hbelow]
      rfl

/-- A new height only needs the lowest position, which is worked out from a short text. -/
theorem setHeight_eq_ok (hsize : v.document.size < 2 ^ 63) (height : Nat) :
    setHeight v height = .ok (v.setHeight height) := by
  have hmax : maxTopLine { v with height := max height 1 } =
      .ok (View.maxTopLine { v with height := max height 1 }) :=
    maxTopLine_eq_ok hsize
  unfold setHeight
  dsimp only
  rw [hmax]
  rfl

/-- A line of the text and the margin, which is no more than half of the rows, are each less than the
half of the words.  So the line below both of them is still a word. -/
theorem topLineFor_eq_ok (h : v.Fits) {line : Nat} (hline : line < 2 ^ 63) (o : Scroll) :
    topLineFor v line o = .ok (v.topLineFor line o) := by
  have hmargin := h.keptMargin_lt o
  have htop := h.topLine_eq_zero_or
  have hkept : min o.margin ((v.height - 1) / 2) = v.keptMargin o := rfl
  unfold topLineFor
  rw [View.topLineFor_eq]
  dsimp only
  rw [hkept]
  by_cases hcentered : o.centered = true
  · rw [if_pos hcentered, if_pos hcentered]
    rfl
  · rw [if_neg hcentered, if_neg hcentered, add_eq_ok (by omega), ok_bind]
    by_cases habove : line < v.topLine + v.keptMargin o
    · rw [if_pos habove, if_pos habove]
      rfl
    · rw [if_neg habove, if_neg habove, add_eq_ok (by omega), ok_bind, add_eq_ok h.bottom_lt,
        ok_bind]
      by_cases hbelow : v.topLine + v.height ≤ line + v.keptMargin o
      · rw [if_pos hbelow, if_pos hbelow, add_eq_ok (by omega), ok_bind, sub_eq_ok (by omega)]
      · rw [if_neg hbelow, if_neg hbelow]
        rfl

/-- Scrolling works out the line where the selection starts, where the viewport should begin for it,
and the lowest position. -/
theorem scrollIntoView_eq_ok (h : v.Fits) (s : Selection) (o : Scroll) :
    scrollIntoView v s o = .ok (v.scrollIntoView s o) := by
  unfold scrollIntoView View.scrollIntoView
  by_cases halive : v.alive = true
  · rw [if_pos halive, if_pos halive, position_eq_ok h.size_lt, ok_bind,
      topLineFor_eq_ok h (h.line_lt s.start), ok_bind, maxTopLine_eq_ok h.size_lt]
    rfl
  · rw [if_neg halive, if_neg halive]
    rfl

/-- Selecting follows the cursor of the view that has the selection already. -/
theorem select_eq_ok (h : v.Fits) (anchor head : Nat) :
    select v anchor head = .ok (v.select anchor head) := by
  unfold select View.select
  by_cases halive : v.alive = true
  · rw [if_pos halive, if_pos halive]
    exact ensureCursorVisible_eq_ok (View.fits_applySelection h _ _)
  · rw [if_neg halive, if_neg halive]

/-- The caret behind what is put in is in the new text. -/
theorem edit?_eq_ok (h : v.Fits) {s : Selection} {text : List Char}
    (hsize : ∀ v' ∈ v.edit? s text, v'.document.size < 2 ^ 63) :
    edit? v s text = .ok (v.edit? s text) := by
  unfold edit?
  unfold View.edit? at hsize ⊢
  by_cases hwilling : (v.alive && v.editable) = true
  · rw [if_pos hwilling] at hsize ⊢
    have hroom : ∀ d ∈ v.document.replace? s.start s.stop text, d.size < 2 ^ 63 := by
      intro d hd
      have := hsize _ (Option.mem_map_of_mem _ hd)
      dsimp only at this
      rwa [View.document_followed] at this
    rw [if_pos hwilling, replace?_eq_ok hroom, ok_bind]
    cases hd : v.document.replace? s.start s.stop text with
    | none => rfl
    | some d =>
      have hchanged : (v.changeDocument d).Fits := { h with size_lt := hroom d hd }
      have hcaret : s.start + text.length ≤ d.size := Document.le_size_of_replace? hd
      have hd' := hroom d hd
      dsimp only
      rw [add_eq_ok (by omega), ok_bind,
        ensureCursorVisible_eq_ok (View.fits_applySelection hchanged _ _)]
      rfl
  · rw [if_neg hwilling, if_neg hwilling]
    rfl

/-- Backspace goes one back from a caret that is not at the start, so that difference is not below
zero. -/
theorem deleteBackward?_eq_ok (h : v.Fits)
    (hsize : ∀ v' ∈ v.deleteBackward?, v'.document.size < 2 ^ 63) :
    deleteBackward? v = .ok v.deleteBackward? := by
  unfold deleteBackward?
  unfold View.deleteBackward? at hsize ⊢
  dsimp only at hsize ⊢
  by_cases hempty : v.selection.isEmpty = true
  · rw [if_pos hempty] at hsize ⊢
    rw [if_pos hempty]
    by_cases hzero : v.selection.start = 0
    · rw [if_pos hzero, if_pos hzero]
      rfl
    · rw [if_neg hzero] at hsize ⊢
      rw [if_neg hzero, sub_eq_ok (Nat.one_le_iff_ne_zero.2 hzero), ok_bind]
      exact edit?_eq_ok h hsize
  · rw [if_neg hempty] at hsize ⊢
    rw [if_neg hempty]
    exact edit?_eq_ok h hsize

/-- A new text is counted anew, and the viewport is held against the lowest position in it. -/
theorem replaceAll_eq_ok {text : List Char}
    (hsize : (v.replaceAll text).document.size < 2 ^ 63) :
    replaceAll v text = .ok (v.replaceAll text) := by
  unfold replaceAll
  unfold View.replaceAll at hsize ⊢
  by_cases halive : v.alive = true
  · rw [if_pos halive] at hsize ⊢
    have htext : (Document.ofChars text).size < 2 ^ 63 := hsize
    have hmade : v.document.replace? 0 v.document.size text = some (.ofChars text) := by
      refine Document.replace?_eq_some_iff.2 ⟨Nat.zero_le _, Nat.le_refl _, ?_⟩
      rw [v.document.size_eq, List.drop_length, List.append_nil]
      rfl
    have hroom : ∀ d ∈ v.document.replace? 0 v.document.size text, d.size < 2 ^ 63 := by
      rw [hmade]
      rintro d ⟨⟩
      exact htext
    have hmax : maxTopLine (v.changeDocument (.ofChars text)) =
        .ok (v.changeDocument (.ofChars text)).maxTopLine :=
      maxTopLine_eq_ok htext
    rw [if_pos halive, replace?_eq_ok hroom, ok_bind, hmade]
    dsimp only [Option.getD_some]
    rw [hmax]
    rfl
  · rw [if_neg halive, if_neg halive]
    rfl

/-- **Whatever is done to a view, no check fails.** -/
theorem act_eq_ok {c : View.Command} (h : v.Fits) (hsize : (v.act c).document.size < 2 ^ 63) :
    act v c = .ok (v.act c) := by
  cases c with
  | insert text =>
    rw [View.act_insert] at hsize ⊢
    have hroom : ∀ v' ∈ v.insert? text, v'.document.size < 2 ^ 63 := by
      intro v' hedit
      rwa [Option.mem_def.1 hedit] at hsize
    unfold act
    dsimp only
    rw [edit?_eq_ok h hroom]
    rfl
  | deleteBackward =>
    rw [View.act_deleteBackward] at hsize ⊢
    have hroom : ∀ v' ∈ v.deleteBackward?, v'.document.size < 2 ^ 63 := by
      intro v' hdelete
      rwa [Option.mem_def.1 hdelete] at hsize
    unfold act
    dsimp only
    rw [deleteBackward?_eq_ok h hroom]
    rfl
  | moveCursor offset => exact select_eq_ok h offset offset
  | select anchor head => exact select_eq_ok h anchor head
  | setHeight height => exact setHeight_eq_ok h.size_lt height
  | ensureCursorVisible => exact ensureCursorVisible_eq_ok h
  | replaceAll text => exact replaceAll_eq_ok hsize
  | scrollIntoView s o => exact scrollIntoView_eq_ok h s o
  | setSelection s => rfl
  | focus => rfl
  | setEditable editable => rfl
  | destroy => rfl
  | drain => rfl

/-- **No check fails in a run**, and the numbers of the view leave room after it. -/
theorem run_eq_ok {commands : List View.Command} (h : v.Fits)
    (hheights : ∀ height, .setHeight height ∈ commands → height < 2 ^ 64)
    (hsizes : ∀ before, before <+: commands → (v.run before).document.size < 2 ^ 63) :
    run v commands = .ok (v.run commands) ∧ (v.run commands).Fits := by
  induction commands generalizing v with
  | nil => exact ⟨rfl, h⟩
  | cons c commands ih =>
    have hsize : (v.act c).document.size < 2 ^ 63 := hsizes [c] (List.prefix_append [c] commands)
    have hfits : (v.act c).Fits := View.fits_act h
      (fun height heq => hheights height (heq ▸ List.mem_cons_self)) hsize
    unfold run
    rw [List.foldlM_cons, act_eq_ok h hsize, ok_bind]
    exact ih hfits (fun height hmem => hheights height (List.mem_cons_of_mem c hmem))
      fun before hprefix => hsizes (c :: before) (List.cons_prefix_cons.2 ⟨rfl, hprefix⟩)

end Checked

namespace View

/-- **The arithmetic of a viewport stays in words.**  Take a view that was made from a text and any
commands, with words for heights and any numbers for offsets and margins, such that the text is
never as long as half of the words.  Then no sum on the way is too large and no difference is below
zero: with all of them checked, the commands do what they do.  The viewport begins at the first line
or does not reach beyond the half of the words.  So the line below it is a word, and so is the line
below the margin of any line that can be scrolled to; and every line can be looked for, and the lines
in view be drawn, with their sums checked. -/
theorem viewport_in_words (text : List Char) (height : Nat) (commands : List Command)
    (hheight : height < 2 ^ 64)
    (hheights : ∀ height', .setHeight height' ∈ commands → height' < 2 ^ 64)
    (hsizes : ∀ before, before <+: commands →
      ((new text height).run before).document.size < 2 ^ 63) :
    let v := (new text height).run commands
    Checked.run (new text height) commands = .ok v ∧
      (v.topLine = 0 ∨ v.topLine + v.height ≤ 2 ^ 63) ∧ v.topLine + v.height < 2 ^ 64 ∧
      (∀ offset margin,
        (v.document.position offset).line + min margin ((v.height - 1) / 2) + 1 < 2 ^ 64) ∧
      (∀ line, Checked.isLineVisible v line = .ok (v.isLineVisible line)) ∧
      Checked.visibleLines v = .ok v.visibleLines := by
  intro v
  have hnew : (new text height).Fits := fits_new (hsizes [] List.nil_prefix) hheight
  obtain ⟨hrun, hfits⟩ : Checked.run (new text height) commands = .ok v ∧ v.Fits :=
    Checked.run_eq_ok hnew hheights hsizes
  refine ⟨hrun, hfits.topLine_eq_zero_or, hfits.bottom_lt, fun offset margin => ?_,
    Checked.isLineVisible_eq_ok hfits, Checked.visibleLines_eq_ok hfits⟩
  have hline := hfits.line_lt offset
  have hmargin := hfits.keptMargin_lt { margin }
  unfold keptMargin at hmargin
  dsimp only at hmargin
  omega

/-- A viewport on the last of three lines is made as tall as a word can say and scrolled with the
widest margin, which puts it at the first line, with the largest word for the line below it.  Then
the last line is deleted. -/
theorem viewport_in_words_of_tall :
    let commands : List Command := [.moveCursor 5, .setHeight (2 ^ 64 - 1),
      .scrollIntoView ⟨2 ^ 64 - 1, 0⟩ ⟨false, 2 ^ 64 - 1⟩, .deleteBackward, .deleteBackward]
    let v := (new "a\nb\nc".toList 1).run commands
    (∀ before, before <+: commands →
        ((new "a\nb\nc".toList 1).run before).document.size < 2 ^ 63) ∧
      ((new "a\nb\nc".toList 1).run [.moveCursor 5]).topLine = 2 ∧
      v.topLine = 0 ∧ v.topLine + v.height = 2 ^ 64 - 1 ∧
      Checked.run (new "a\nb\nc".toList 1) commands = .ok v ∧
      Checked.visibleLines v = .ok [0, 1] := by
  intro commands v
  have hheights : ∀ height', Command.setHeight height' ∈ commands → height' < 2 ^ 64 := by
    simp [commands]
  have hsizes : ∀ before, before <+: commands →
      ((new "a\nb\nc".toList 1).run before).document.size < 2 ^ 63 := by
    simp only [← List.mem_inits]
    decide
  have hvisible : v.visibleLines = [0, 1] := by decide
  obtain ⟨hrun, -, -, -, -, hlines⟩ :=
    viewport_in_words "a\nb\nc".toList 1 commands (by decide) hheights hsizes
  exact ⟨hsizes, by decide, by decide, by decide, hrun, hlines.trans (congrArg _ hvisible)⟩

end View
end TuneEditor
