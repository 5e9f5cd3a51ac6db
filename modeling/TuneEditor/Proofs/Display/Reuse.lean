/-
# A renderer that is used again draws what a fresh one would

A program has some views and one renderer for all of them.  It does things to
the views, gives the renderer another theme, and draws now this view and now
that one; `Act` is one of these.  `prints` are the texts that it sends to the
terminal, and `freshPrints` those that it would send if it took a new renderer
for every drawing.

The renderer remembers highlighting by the revision of a text, and two views
can be at the same revision with different texts.  So between drawings of two
views it has to be told to forget (`Separated`).  Then nobody can tell that
it remembers anything (`prints_eq_freshPrints`).  What carries this over the
acts is that the highlighting is right for the view drawn last as long as the
revision is the same (`Ready`), since the revision dates the text
(`View.dates_act`).
-/

import Mathlib.Logic.Function.Basic
import TuneEditor.Display.Renderer
import TuneEditor.Proofs.Highlight.Transparency
import TuneEditor.Proofs.View.Revision

namespace TuneEditor
namespace Renderer

/-- What a program does with its views, which have names in `ι`, and its renderer. -/
inductive Act (ι : Type*)
  /-- Something is done to a view. -/
  | change (i : ι) (c : View.Command)
  | setTheme (theme : Theme)
  | setLineNumbers (lineNumbers : Bool)
  | invalidate
  | render (i : ι) (s : Screen) (name : List Char)

section

variable {ι : Type*} [DecidableEq ι]

/-- What is sent to the terminal. -/
def prints (r : Renderer) (views : ι → View) : List (Act ι) → List (List Char)
  | [] => []
  | .change i c :: acts => r.prints (Function.update views i ((views i).act c)) acts
  | .setTheme theme :: acts => prints { r with theme } views acts
  | .setLineNumbers lineNumbers :: acts => prints { r with lineNumbers } views acts
  | .invalidate :: acts => r.invalidate.prints views acts
  | .render i s name :: acts =>
    (r.render s (views i) name).1 :: (r.render s (views i) name).2.prints views acts

/-- What would be sent to the terminal if each drawing was by a new renderer. -/
def freshPrints (theme : Theme) (lineNumbers highlight : Bool) (views : ι → View) :
    List (Act ι) → List (List Char)
  | [] => []
  | .change i c :: acts =>
    freshPrints theme lineNumbers highlight (Function.update views i ((views i).act c)) acts
  | .setTheme theme :: acts => freshPrints theme lineNumbers highlight views acts
  | .setLineNumbers lineNumbers :: acts => freshPrints theme lineNumbers highlight views acts
  | .invalidate :: acts => freshPrints theme lineNumbers highlight views acts
  | .render i s name :: acts =>
    ((new theme lineNumbers highlight).render s (views i) name).1 ::
      freshPrints theme lineNumbers highlight views acts

end

/-- No view is drawn after another one without a call to forget in between; `last` is the view
drawn last, if there was no such call since. -/
def Separated {ι : Type*} (last : Option ι) : List (Act ι) → Prop
  | [] => True
  | .invalidate :: acts => Separated none acts
  | .render i _ _ :: acts => (last = none ∨ last = some i) ∧ Separated (some i) acts
  | _ :: acts => Separated last acts

/-! ### One drawing -/

/-- How a renderer draws, whatever it remembers: its theme, whether lines are numbered and whether
they are highlighted. -/
def settings (r : Renderer) : Theme × Bool × Bool :=
  (r.theme, r.lineNumbers, r.highlighter.enabled)

/-- Renderers agree in their settings just if they do in the theme, the numbering of lines and
whether they highlight. -/
theorem settings_eq_iff {r r' : Renderer} :
    r.settings = r'.settings ↔ r.theme = r'.theme ∧ r.lineNumbers = r'.lineNumbers ∧
      r.highlighter.enabled = r'.highlighter.enabled := by
  simp only [settings, Prod.mk.injEq]

/-- Taking note of a view changes no setting. -/
theorem settings_follow (r : Renderer) (v : View) : (r.follow v).settings = r.settings := by
  unfold follow
  split
  · rfl
  · rfl

/-- A renderer that has taken note of a view remembers its revision. -/
theorem revision_follow (r : Renderer) (v : View) : (r.follow v).revision = some v.revision := by
  unfold follow
  split
  · next hrevision => exact hrevision
  · rfl

/-- Highlighting does not change which revision is remembered. -/
theorem revision_highlight (r : Renderer) (v : View) : (r.highlight v).revision = r.revision := by
  unfold highlight
  cases v.visibleLines.getLast? with
  | none => rfl
  | some line => rfl

/-- Highlighting changes no setting either: it only fills the cache. -/
theorem settings_highlight (r : Renderer) (v : View) : (r.highlight v).settings = r.settings := by
  unfold highlight settings
  cases v.visibleLines.getLast? with
  | none => rfl
  | some line => rw [Highlighter.enabled_advance]

/-- So drawing changes no setting. -/
theorem settings_draw (r : Renderer) (columns : Nat) (v : View) (name : List Char) :
    (r.draw columns v name).2.settings = r.settings :=
  (settings_highlight _ v).trans (settings_follow r v)

/-- All that is known and not out of date is true of the text of a view. -/
def Right (r : Renderer) (v : View) : Prop :=
  r.highlighter.cache.RightUpTo v.document.lines r.highlighter.cache.invalidFrom

section

variable {r r' : Renderer} {v : View}

/-- A renderer that takes no line for highlighted is right for every view. -/
theorem right_of_invalidFrom (h : r.highlighter.cache.invalidFrom = 0) (v : View) :
    r.Right v := by
  unfold Right
  rw [h]
  exact .zero _ _

/-- What is highlighted is highlighted for the lines of the view, and what was right stays so. -/
theorem right_highlight (h : r.Right v) : (r.highlight v).Right v := by
  unfold highlight
  cases v.visibleLines.getLast? with
  | none => exact h
  | some line => exact (Highlighter.rightUpTo_advance h line).1

/-- To follow a view is to keep what is known if it was known at its revision, and else to forget
it. -/
theorem right_follow (h : r.revision = some v.revision → r.Right v) : (r.follow v).Right v := by
  unfold follow
  split
  · next hrevision => exact h hrevision
  · exact right_of_invalidFrom rfl v

/-- After a drawing the highlighting is right for the view that was drawn, if it was right for the
revision that it was made for. -/
theorem right_draw (h : r.revision = some v.revision → r.Right v) (columns : Nat)
    (name : List Char) : (r.draw columns v name).2.Right v :=
  right_highlight (right_follow h)

/-- What is right gives the spans of the plain computation. -/
theorem lineSpans_of_right (h : r.Right v) (line : Nat) :
    r.highlighter.lineSpans v.document.lines line =
      Highlighter.plainSpans r.highlighter.enabled v.document.lines line :=
  (Highlighter.rightUpTo_advance h line).2

/-- Of a renderer only whether lines are numbered counts for the width of the numbers. -/
theorem gutter_congr (h : r.lineNumbers = r'.lineNumbers) (lineCount : Nat) :
    r.gutter lineCount = r'.gutter lineCount := by
  unfold gutter
  rw [h]

/-- Renderers with the same settings draw the same row of a view, if the highlighting of both is
right for it. -/
theorem row_congr (hsettings : r.settings = r'.settings) (h : r.Right v) (h' : r'.Right v)
    (columns line : Nat) : r.row columns v line = r'.row columns v line := by
  obtain ⟨htheme, hnumbers, henabled⟩ := settings_eq_iff.1 hsettings
  have hgutter := gutter_congr hnumbers v.document.lineCount
  have hspans : r.highlighter.lineSpans v.document.lines line =
      r'.highlighter.lineSpans v.document.lines line := by
    rw [lineSpans_of_right h, lineSpans_of_right h', henabled]
  unfold row
  rw [hgutter, hspans, htheme, hnumbers]

/-- **What is drawn depends on the settings and the view alone**, if what is remembered is right at
the revision of the view. -/
theorem print_render_congr (hsettings : r.settings = r'.settings)
    (h : r.revision = some v.revision → r.Right v)
    (h' : r'.revision = some v.revision → r'.Right v) (s : Screen) (name : List Char) :
    (r.render s v name).1 = (r'.render s v name).1 := by
  have hsettings' :
      (r.draw s.columns v name).2.settings = (r'.draw s.columns v name).2.settings := by
    rw [settings_draw, settings_draw, hsettings]
  have hrow := row_congr hsettings' (right_draw h s.columns name) (right_draw h' s.columns name)
    s.columns
  have hrows := List.map_congr_left fun line (_ : line ∈ v.visibleLines) => hrow line
  exact congrArg (fun rows => Frame.print s ⟨rows, modeLine s.columns (v.status name)⟩) hrows

end

/-! ### One act after the other -/

section

variable {ι : Type*}

/-- What is remembered is right for the view drawn last as long as it is at the same revision, and
that view was not at a later one.  If there is no such view then nothing is remembered. -/
def Ready (r : Renderer) (views : ι → View) : Option ι → Prop
  | none => r.highlighter.cache.invalidFrom = 0
  | some i => ∃ k ≤ (views i).revision, r.revision = some k ∧
      (k = (views i).revision → r.Right (views i))

variable {r : Renderer} {views : ι → View} {last : Option ι} {i : ι}

/-- What is remembered may be used for a view that may be drawn. -/
theorem right_of_ready (h : Ready r views last) (hlast : last = none ∨ last = some i)
    (hrevision : r.revision = some (views i).revision) : r.Right (views i) := by
  rcases hlast with rfl | rfl
  · exact right_of_invalidFrom h (views i)
  · obtain ⟨k, -, hk, hright⟩ := h
    exact hright (Option.some.inj (hk.symm.trans hrevision))

/-- A drawing makes the renderer ready for the view that was drawn. -/
theorem ready_render (h : r.revision = some (views i).revision → r.Right (views i))
    (s : Screen) (name : List Char) : Ready (r.render s (views i) name).2 views (some i) := by
  have hrevision : (r.render s (views i) name).2.revision = some (views i).revision :=
    (revision_highlight _ _).trans (revision_follow r _)
  exact ⟨_, Nat.le_refl _, hrevision, fun _ => right_draw h s.columns name⟩

/-- What is done to a view leaves the renderer ready: a change of the text makes the revision grow,
and then it is not the remembered one any more. -/
theorem ready_change [DecidableEq ι] (h : Ready r views last) (i : ι) (c : View.Command) :
    Ready r (Function.update views i ((views i).act c)) last := by
  cases last with
  | none => exact h
  | some j =>
    obtain ⟨k, hle, hrevision, hright⟩ := h
    by_cases hji : j = i
    · subst hji
      obtain ⟨hmono, hdocument⟩ := View.dates_act (views j) c
      rw [Ready, Function.update_self]
      refine ⟨k, Nat.le_trans hle hmono, hrevision, ?_⟩
      intro hk
      -- The revision of the view before the change is between `k` and the one after it.
      have hsame : ((views j).act c).revision = (views j).revision := by omega
      unfold Right
      rw [hdocument hsame]
      exact hright (by omega)
    · rw [Ready, Function.update_of_ne hji]
      exact ⟨k, hle, hrevision, hright⟩

/-- A renderer that is ready draws what fresh ones would. -/
theorem prints_of_ready [DecidableEq ι] {acts : List (Act ι)} {theme : Theme}
    {lineNumbers highlight : Bool} (hsettings : r.settings = (theme, lineNumbers, highlight))
    (hs : Separated last acts) (h : Ready r views last) :
    r.prints views acts = freshPrints theme lineNumbers highlight views acts := by
  induction acts generalizing r views last theme lineNumbers with
  | nil => rfl
  | cons act acts ih =>
    obtain ⟨rfl, hrest⟩ := Prod.mk.inj hsettings
    obtain ⟨rfl, rfl⟩ := Prod.mk.inj hrest
    cases act with
    | change i c => exact ih rfl hs (ready_change h i c)
    | setTheme theme => exact ih (r := { r with theme }) rfl hs h
    | setLineNumbers lineNumbers => exact ih (r := { r with lineNumbers }) rfl hs h
    | invalidate =>
      have hnone : Ready r.invalidate views none := rfl
      exact ih (r := r.invalidate) rfl hs hnone
    | render i s name =>
      obtain ⟨hlast, hs⟩ := hs
      have hright := right_of_ready h hlast
      let fresh := new r.theme r.lineNumbers r.highlighter.enabled
      have hsame : r.settings = fresh.settings := rfl
      -- A renderer that has drawn nothing remembers nothing that could be wrong.
      have hnew : fresh.revision = some (views i).revision → fresh.Right (views i) :=
        fun _ => right_of_invalidFrom rfl (views i)
      have hfresh : (r.render s (views i) name).1 = (fresh.render s (views i) name).1 :=
        print_render_congr hsame hright hnew s name
      have hsettings' : (r.render s (views i) name).2.settings = r.settings :=
        settings_draw r s.columns (views i) name
      rw [prints, freshPrints, hfresh, ih hsettings' hs (ready_render hright s name)]

/-- **A renderer that is used again draws what a fresh one would.**  Whatever is done to any number
of views and to the settings of a renderer that was new at the start, each of its drawings is the
one that a new renderer with the settings of that moment would make, as long as it was told to
forget between drawings of two views. -/
theorem prints_eq_freshPrints [DecidableEq ι] (theme : Theme) (lineNumbers highlight : Bool)
    (views : ι → View) {acts : List (Act ι)} (hs : Separated none acts) :
    (new theme lineNumbers highlight).prints views acts =
      freshPrints theme lineNumbers highlight views acts :=
  prints_of_ready rfl hs rfl

set_option maxRecDepth 10000 in
/-- A title loses its mark when the key is put in front of it, and a second view at the same
revision is drawn with marks of its own. -/
theorem prints_eq_freshPrints_of_key :
    let views : Bool → View := fun second => .new (if second then "|" else "T:").toList 1
    let s : Screen := ⟨4, true⟩
    let acts : List (Act Bool) :=
      [.render false s [], .change false (.insert "K:".toList), .render false s [], .invalidate,
        .change true (.insert "D".toList), .render true s []]
    Separated none acts ∧ (new {} false true).prints views acts =
      ["\x1b[38;5;12m\x1b[1mT:\x1b[0m\n\x1b[7m-- a\x1b[27m\n".toList,
        "\x1b[38;5;12m\x1b[1mK:\x1b[0mT\x1b[38;5;15m\x1b[1m:\x1b[0m\n\x1b[7m** a\x1b[27m\n".toList,
        "\x1b[38;5;2mD\x1b[0m\x1b[38;5;15m\x1b[1m|\x1b[0m\n\x1b[7m** a\x1b[27m\n".toList] := by
  intro views s acts
  have hs : Separated none acts := ⟨.inl rfl, .inr rfl, .inl rfl, trivial⟩
  refine ⟨hs, (prints_eq_freshPrints {} false true views hs).trans ?_⟩
  decide +kernel

set_option maxRecDepth 10000 in
/-- A renderer that is not told to forget draws the second view with the marks of the first. -/
example :
    let views : Bool → View := fun second => .new (if second then "AB" else "T:").toList 1
    (new {} false true).prints views [.render false ⟨4, true⟩ [], .render true ⟨4, true⟩ []] =
      ["\x1b[38;5;12m\x1b[1mT:\x1b[0m\n\x1b[7m-- a\x1b[27m\n".toList,
        "\x1b[38;5;12m\x1b[1mAB\x1b[0m\n\x1b[7m-- a\x1b[27m\n".toList] := by
  decide +kernel

end

end Renderer
end TuneEditor
