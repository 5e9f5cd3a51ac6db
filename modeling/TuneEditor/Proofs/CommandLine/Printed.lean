/-
# What the program prints

The program asks a synchronizer for the selection, as a host does.  The text that
it wishes for is the one that is shown, so the text is left alone and does not count
as changed; the request is granted if it fits the text and comes to nothing else; and
the focus that follows is not seen in what is drawn.

So what is printed is a drawing of the view of the text that has the part asked for
selected and in view, if there is such a part, and of the plain view if there is none
(`requestedView`, `respond_text`).  It is as wide as the terminal says.  Read without its
escapes it is the lines of the text that was read, as many as there is room for, and a
mode line that begins as that of a text that was not changed.
-/

import TuneEditor.CommandLine.Program
import TuneEditor.Proofs.CommandLine.Arguments
import TuneEditor.Proofs.Display.Rows
import TuneEditor.Proofs.Synchronizer.Requests

namespace TuneEditor

/-- The mode line of a view that was not changed says so, as far as there is room. -/
theorem View.take_dashes_front_modeLine {v : View} (h : v.modified = false) (columns : Nat)
    (name : List Char) : "-- abcedit: ".toList.take columns <+: modeLine columns (v.status name) := by
  obtain ⟨rest, hstatus⟩ : ∃ rest, v.status name = "-- abcedit: ".toList ++ rest := by
    unfold status
    rw [h]
    exact ⟨_, by simp only [List.append_assoc]; rfl⟩
  have hlabels : ∀ c ∈ "-- abcedit: ".toList, Text.IsLabel c := by simp [Text.IsLabel]
  have hwidth : Text.rowWidth ("-- abcedit: ".toList.take columns) ≤ columns := by
    rw [Text.rowWidth_of_isLabel fun c hc => hlabels c (List.mem_of_mem_take hc)]
    exact List.length_take_le ..
  have hfront : "-- abcedit: ".toList.take columns <+: v.status name := by
    rw [hstatus]
    exact (List.take_prefix ..).trans (List.prefix_append ..)
  unfold modeLine
  split
  · exact hfront.trans (List.prefix_append ..)
  · exact front_fitting_iff.2 ⟨hfront, hwidth⟩

namespace CommandLine

/-! ### The view that is opened -/

/-- The view of a text with a viewport of some height, which takes edits unless the options say
no. -/
def Options.plainView (o : Options) (height : Nat) (text : List Char) : View :=
  (View.new text height).setEditable (!o.readOnly)

/-- The view that the options ask for: a part of the text is selected and in the middle of the
viewport, if one is asked for and there is such a part. -/
def Options.requestedView (o : Options) (height : Nat) (text : List Char) : View :=
  let v := o.plainView height text
  match o.select with
  | none => v
  | some r =>
    if r.Fits text.length then
      let range : Selection := ⟨r.start.toNat, r.stop.toNat⟩
      (v.setSelection range).scrollIntoView range { centered := true }
    else v

variable {o : Options} {text : List Char} {r : SelectionRequest}

/-- Where no part is asked for, the plain view is shown. -/
theorem Options.requestedView_of_none (h : o.select = none) (height : Nat) (text : List Char) :
    o.requestedView height text = o.plainView height text := by
  unfold requestedView
  rw [h]

/-- Where there is no such part, the plain view is shown as well. -/
theorem Options.requestedView_of_not_fits (h : o.select = some r) (hnot : ¬ r.Fits text.length)
    (height : Nat) : o.requestedView height text = o.plainView height text := by
  unfold requestedView
  rw [h]
  exact if_neg hnot

/-- Where there is such a part, it is selected and brought to the middle of the viewport. -/
theorem Options.requestedView_of_fits (h : o.select = some r) (hfits : r.Fits text.length)
    (height : Nat) :
    o.requestedView height text =
      ((o.plainView height text).setSelection ⟨r.start.toNat, r.stop.toNat⟩).scrollIntoView
        ⟨r.start.toNat, r.stop.toNat⟩ { centered := true } := by
  unfold requestedView
  rw [h]
  exact if_pos hfits

/-- What is asked for changes the selection and the viewport, and nothing else but what there is to
tell. -/
theorem Options.exists_requestedView_eq (o : Options) (height : Nat) (text : List Char) :
    ∃ anchor head topLine outbox, o.requestedView height text =
      { o.plainView height text with anchor, head, topLine, outbox } := by
  cases h : o.select with
  | none =>
    rw [requestedView_of_none h]
    exact ⟨_, _, _, _, rfl⟩
  | some r =>
    by_cases hfits : r.Fits text.length
    · obtain ⟨h₁, h₂⟩ := Selection.bounds_of_checked_ok (Selection.checked_of_fits hfits)
      obtain ⟨outbox, hset⟩ :=
        View.exists_setSelection_eq (v := o.plainView height text) rfl h₁ h₂
      rw [requestedView_of_fits h hfits, hset]
      exact ⟨_, _, _, _, rfl⟩
    · rw [requestedView_of_not_fits h hfits]
      exact ⟨_, _, _, _, rfl⟩

/-- The requested view holds the text, does not count it as changed, and takes edits unless the
options say no. -/
theorem Options.requestedView_keeps (o : Options) (height : Nat) (text : List Char) :
    (o.requestedView height text).document = .ofChars text ∧
      (o.requestedView height text).modified = false ∧
      (o.requestedView height text).editable = !o.readOnly := by
  obtain ⟨anchor, head, topLine, outbox, h⟩ := o.exists_requestedView_eq height text
  rw [h]
  exact ⟨rfl, rfl, rfl⟩

/-- The wishes of the program are fulfilled by the plain view, up to the request. -/
theorem heed_plainView (o : Options) (options : SyncOptions) (height : Nat) (text : List Char) :
    let s : Synchronizer View := { widget := .new text height, options }
    s.heed { text, selection := o.select, disabled := o.readOnly } =
      { s with widget := o.plainView height text, lastRequest := o.select } := by
  intro s
  have hsame : (Widget.isAlive s.widget && Widget.text s.widget != text) = false := by
    change (true && text != text) = false
    simp
  unfold Synchronizer.heed Synchronizer.settle
  rw [Synchronizer.setContent_of_same hsame]
  rfl

/-- A synchronizer that grants the request leaves the requested view, and nothing to tell. -/
theorem widget_setSelection_plainView (h : o.select = some r) (hfits : r.Fits text.length)
    {height : Nat} {s : Synchronizer View} (hidle : s.phase = .idle)
    (hwidget : s.widget = o.plainView height text) (now : Nat) :
    (s.setSelection now r).1.widget = { o.requestedView height text with outbox := [] } ∧
      (s.setSelection now r).1.pendingFocus = some (now + s.options.focusDelay) := by
  have halive : s.widget.alive = true := by
    rw [hwidget]
    rfl
  have hlength : r.Fits (Widget.length s.widget) := by
    rw [hwidget]
    exact hfits
  obtain ⟨h₁, h₂⟩ := Selection.bounds_of_checked_ok (Selection.checked_of_fits hfits)
  obtain ⟨outbox, hset⟩ := View.exists_setSelection_eq (v := o.plainView height text) rfl h₁ h₂
  rw [Synchronizer.setSelection_of_granted hidle (Synchronizer.grant?_of_fits halive hlength)]
  refine ⟨?_, rfl⟩
  rw [Options.requestedView_of_fits h hfits, hset]
  dsimp only
  rw [hwidget]
  change (((o.plainView height text).setSelection _).scrollIntoView _ _).drain.2 = _
  rw [hset]
  rfl

/-- **The view that is opened** is the requested one, but for the focus and what there is to
tell. -/
theorem exists_openView_eq (o : Options) (s : Settings) (text : List Char) :
    ∃ outbox focused, openView o s text =
      { o.requestedView s.height text with outbox, focused } := by
  let start : Synchronizer View := { widget := .new text s.height, options := s.syncOptions }
  let w : Wishes := { text, selection := o.select, disabled := o.readOnly }
  let heeded : Synchronizer View :=
    { start with widget := o.plainView s.height text, lastRequest := o.select }
  have hheed : start.heed w = heeded := heed_plainView o s.syncOptions s.height text
  -- Nothing was asked for before, so whatever is asked for now is new.
  have hrequest : start.request? w = o.select := by
    change (if o.select = none then none else o.select) = o.select
    split
    · next h => exact h.symm
    · rfl
  change ∃ outbox focused, ((start.reconcile 0 w).pollDeferred s.focusDelay).1.widget = _
  cases h : o.select with
  | none =>
    rw [Synchronizer.reconcile_of_none (hrequest.trans h), hheed, Options.requestedView_of_none h]
    exact ⟨_, _, rfl⟩
  | some r =>
    rw [Synchronizer.reconcile_of_some (hrequest.trans h), hheed]
    by_cases hfits : r.Fits text.length
    · obtain ⟨hwidget, hpending⟩ :=
        widget_setSelection_plainView (s := heeded) h hfits rfl rfl 0
      -- The program waits until the focus is due, so none is pending when the view is drawn.
      have hdue : 0 + heeded.options.focusDelay ≤ s.focusDelay := Nat.le_of_eq (Nat.zero_add _)
      rw [Synchronizer.pollDeferred_of_due hpending hdue, hwidget]
      split
      · next halive => exact ⟨[], true, if_pos halive⟩
      · exact ⟨_, _, rfl⟩
    · have hrefused := Synchronizer.setSelection_of_not_fits (s := heeded) rfl hfits 0
      rw [hrefused, Options.requestedView_of_not_fits h hfits]
      exact ⟨_, _, rfl⟩

/-! ### What is printed -/

/-- What is printed is a drawing of the requested view by a renderer that has drawn nothing. -/
theorem printed_eq (htokens : o.tokens = false) (s : Settings) (terminal : Option Nat)
    (text : List Char) :
    printed o s terminal text =
      ((Renderer.new s.theme s.lineNumbers s.highlight).render (o.screen terminal)
        (o.requestedView s.height text) o.name).1 := by
  obtain ⟨outbox, focused, hopen⟩ := exists_openView_eq o s text
  unfold printed
  rw [htokens, hopen]
  -- Neither what there is to tell nor the focus is drawn.
  rfl

/-- Once the settings are read the program succeeds on every text. -/
theorem respond_eq {file : Option Source} {s : Settings} (hs : o.settings file = .ok s)
    (text : List Char) (terminal : Option Nat) :
    respond o file (.ok text) terminal =
      { exitCode := 0, output := printed o (o.over s) terminal text } := by
  unfold respond run
  rw [hs]
  rfl

/-- A request that does not fit the text makes no difference to the answer. -/
theorem respond_of_not_fits {file : Option Source} {s : Settings} (htokens : o.tokens = false)
    (hs : o.settings file = .ok s) (h : o.select = some r) (hnot : ¬ r.Fits text.length)
    (terminal : Option Nat) :
    respond { o with select := none } file (.ok text) terminal =
      respond o file (.ok text) terminal := by
  have hprinted := printed_eq (o := { o with select := none }) htokens (o.over s) terminal text
  rw [respond_eq hs, respond_eq (o := { o with select := none }) hs, printed_eq htokens,
    Options.requestedView_of_not_fits h hnot]
  exact congrArg (fun output => ({ exitCode := 0, output } : Response)) hprinted

/-- **What the program prints.**  Once its settings are read and it is not asked for tokens, the
program succeeds on every text and every terminal, and all it writes is what a renderer that has
drawn nothing draws of the requested view, for 80 columns if the terminal does not tell its own.  A
request that does not fit the text makes no difference to the answer, and the arguments without
`--select` and its value are those without the request.  Whatever is asked for, the view holds the
text that was read and does not count it as changed.

What is written says so.  It is a row for each line in view and the mode line, each of them ended by
a newline, with escapes in them unless colour is off.  The mode line begins with the dashes of a text
that was not changed.  The rows are the lines of the text that was read, from the top of the viewport
on: the number of the line, if lines are numbered, and behind it as much of the front of the line as
the screen has room for. -/
theorem respond_text {o : Options} {file : Option Source} {s : Settings}
    (htokens : o.tokens = false) (hs : o.settings file = .ok s) (text : List Char)
    (terminal : Option Nat) :
    let answer := respond o file (.ok text) terminal
    let columns := terminal.getD 80
    let height := (o.height.map (max · 1)).getD s.height
    let numbered := o.lineNumbers || s.lineNumbers
    let shown := o.requestedView height text
    let lines := Text.lines text
    let numberWidth := if numbered then max 3 (Text.ofNat lines.length).length + 1 else 0
    let mode := modeLine columns (shown.status o.name)
    (answer.exitCode = 0 ∧ answer.errors = [] ∧
      answer.output = ((Renderer.new s.theme numbered s.highlight).render ⟨columns, !o.noColor⟩
        shown o.name).1) ∧
    (∀ r ∈ o.select, ¬ (0 ≤ r.start ∧ r.start ≤ r.stop ∧ r.stop ≤ text.length) →
      respond { o with select := none } file (.ok text) terminal = answer) ∧
    (∀ before value after,
      readArguments (before ++ "--select".toList :: value :: after) = .ok o →
        (∃ r, readRange value = .ok r ∧ o.select = some r) ∧
          readArguments (before ++ after) = .ok { o with select := none }) ∧
    (shown.text = text ∧ shown.modified = false ∧ shown.editable = !o.readOnly) ∧
    ∃ rows : List (List Char),
      let written := (rows ++ [mode]).flatMap (· ++ ['\n'])
      (Terminal.Dressed answer.output written ∧ (o.noColor = true → answer.output = written) ∧
        ('\x1b' ∉ text → '\x1b' ∉ o.name → Terminal.withoutEscapes answer.output = written)) ∧
      "-- abcedit: ".toList.take columns <+: mode ∧
      rows.length = min shown.height (lines.length - shown.topLine) ∧
      ∀ i < rows.length, ∃ line number front, lines[shown.topLine + i]? = some line ∧
        rows[i]? = some (number ++ front) ∧
        number = (if numbered then
          Text.padLeft (numberWidth - 1) (Text.ofNat (shown.topLine + i + 1)) ++ [' '] else []) ∧
        LongestFront (columns - numberWidth) line front := by
  intro answer columns height numbered shown lines numberWidth mode
  let fresh := Renderer.new s.theme numbered s.highlight
  have hanswer : answer = { exitCode := 0, output := printed o (o.over s) terminal text } :=
    respond_eq hs text terminal
  have houtput : answer.output = (fresh.render ⟨columns, !o.noColor⟩ shown o.name).1 := by
    rw [hanswer]
    exact printed_eq htokens (o.over s) terminal text
  obtain ⟨hdocument, hmodified, heditable⟩ := o.requestedView_keeps height text
  have htext : shown.text = text := congrArg Document.chars hdocument
  have hlines : shown.document.lines = lines := congrArg Text.lines htext
  have hcount : shown.document.lineCount = lines.length := by
    rw [← hlines, Document.length_lines_eq]
  refine ⟨⟨congrArg Response.exitCode hanswer, congrArg Response.errors hanswer, houtput⟩,
    fun r hr hnot => respond_of_not_fits htokens hs hr hnot terminal,
    fun before value after h => readArguments_select h, ⟨htext, hmodified, heditable⟩,
    shown.visibleLines.map (fresh.rowText columns shown), ⟨?_, fun hcolor => ?_, fun hesc hname => ?_⟩,
    View.take_dashes_front_modeLine hmodified columns o.name, ?_, fun i hi => ?_⟩
  · rw [houtput]
    exact fresh.dressed_render _ shown o.name
  · rw [houtput]
    exact fresh.render_eq_of_not_color (congrArg not hcolor) shown o.name
  · rw [houtput]
    rw [← htext] at hesc
    exact fresh.withoutEscapes_render _ hesc hname
  · rw [List.length_map, View.length_visibleLines, hcount]
  · rw [List.length_map] at hi
    obtain ⟨line, number, front, hline, hrow, hnumber, -, -, hfront⟩ :=
      fresh.exists_row columns shown hi
    rw [hcount] at hnumber hfront
    rw [hlines] at hline
    exact ⟨line, number, front, hline, hrow, hnumber, hfront⟩

set_option maxRecDepth 10000 in
/-- A request beyond the end of the text, with flags on both sides, on a terminal of 16 columns. -/
theorem respond_text_of_not_fits :
    let o : Options := { select := some ⟨1, 9⟩, readOnly := true, lineNumbers := true }
    let text := "K:C\nAé|".toList
    let answer := respond o none (.ok text) (some 16)
    readArguments (["--read-only".toList] ++
        "--select".toList :: "1:9".toList :: ["--line-numbers".toList]) = .ok o ∧
      o.tokens = false ∧ o.settings none = .ok {} ∧
        readArguments ["--read-only".toList, "--line-numbers".toList] =
            .ok { o with select := none } ∧
          answer.exitCode = 0 ∧
            respond { o with select := none } none (.ok text) (some 16) = answer ∧
              answer.output =
                  ("\x1b[2m  1 \x1b[22m\x1b[38;5;12m\x1b[1mK:\x1b[0m\x1b[38;5;2mC\x1b[0m\n" ++
                    "\x1b[2m  2 \x1b[22m\x1b[38;5;2mA\x1b[0mé\x1b[38;5;15m\x1b[1m|\x1b[0m\n" ++
                    "\x1b[7m-- abcedit: *std\x1b[27m\n").toList ∧
                Terminal.withoutEscapes answer.output =
                  "  1 K:C\n  2 Aé|\n-- abcedit: *std\n".toList := by
  intro o text answer
  have htokens : o.tokens = false := rfl
  have hs : o.settings none = .ok {} := rfl
  have hargs : readArguments (["--read-only".toList] ++
      "--select".toList :: "1:9".toList :: ["--line-numbers".toList]) = .ok o := by
    rfl
  obtain ⟨⟨hexit, -⟩, hrefused, hselect, -, rows, ⟨-, -, hplain⟩, -, hcount, hrows⟩ :=
    respond_text htokens hs text (some 16)
  have hlength : rows.length = 2 := hcount.trans (by decide)
  have hfirst : rows[0]? = some "  1 K:C".toList := by
    obtain ⟨line, number, front, hline, hrow, hnumber, hfront⟩ := hrows 0 (by omega)
    obtain rfl : line = "K:C".toList := Option.some.inj (hline.symm.trans (by decide))
    rw [hrow, hnumber, longestFront_iff.1 hfront]
    decide
  have hsecond : rows[1]? = some "  2 Aé|".toList := by
    obtain ⟨line, number, front, hline, hrow, hnumber, hfront⟩ := hrows 1 (by omega)
    obtain rfl : line = "Aé|".toList := Option.some.inj (hline.symm.trans (by decide))
    rw [hrow, hnumber, longestFront_iff.1 hfront]
    decide
  obtain ⟨first, second, rfl⟩ := List.length_eq_two.1 hlength
  obtain rfl : first = "  1 K:C".toList := Option.some.inj hfirst
  obtain rfl : second = "  2 Aé|".toList := Option.some.inj hsecond
  exact ⟨hargs, htokens, hs, (hselect _ _ _ hargs).2, hexit, hrefused _ rfl (by decide),
    by decide +kernel, (hplain (by decide) (by decide)).trans (by decide)⟩

end CommandLine
end TuneEditor
