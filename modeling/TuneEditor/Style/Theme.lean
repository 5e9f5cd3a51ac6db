/-
# A style for every tag

A theme gives a style to each tag of a tune and to the selection.
-/

import TuneEditor.Notation.Tag
import TuneEditor.Style.Basic

namespace TuneEditor

/-- The style that a tag has unless a theme says otherwise. -/
def Tag.style : Tag → Style
  | header => { foreground := .brightBlue, bold := true }
  | note => { foreground := .green }
  | accidental => { foreground := .magenta }
  | duration => { foreground := .cyan }
  | rest => { foreground := .brightBlack }
  | chord => { foreground := .yellow }
  | slur => { foreground := .brightMagenta }
  | bar => { foreground := .brightWhite, bold := true }
  | comment => { foreground := .brightBlack, italic := true }
  | plain => .plain

/-- Styles for the tags and for the selection. -/
structure Theme where
  style : Tag → Style := Tag.style
  selection : Style := { reverse := true }

namespace Theme

/-- A theme with another style for one tag. -/
def setStyle (t : Theme) (tag : Tag) (s : Style) : Theme :=
  { t with style := fun u => if u = tag then s else t.style u }

/-- Themes are the same if they agree on every tag and on the selection. -/
theorem eq_iff {t u : Theme} :
    t = u ↔ (∀ tag ∈ Tag.all, t.style tag = u.style tag) ∧ t.selection = u.selection := by
  constructor
  · rintro rfl
    exact ⟨fun _ _ => rfl, rfl⟩
  · rintro ⟨hs, hsel⟩
    cases t
    cases u
    simp only [mk.injEq]
    exact ⟨funext fun tag => hs tag (Tag.mem_all tag), hsel⟩

instance : DecidableEq Theme := fun _ _ =>
  decidable_of_iff _ eq_iff.symm

end Theme
end TuneEditor
