/-
# As much as fits

A row is cut at the first character for which there is no room.  What is kept is the
longest front of the text that is no wider than the columns (`LongestFront`,
`longestFront_iff`): widths only add up, so once a character does not fit no longer
front does, not even if characters of no width follow.
-/

import TuneEditor.Display.Frame
import TuneEditor.Proofs.Text.Width

namespace TuneEditor

open Text (charWidth rowWidth)

/-- The longest front of a text that is no wider than some columns. -/
structure LongestFront (columns : Nat) (cs front : List Char) : Prop where
  isFront : front <+: cs
  fits : rowWidth front ≤ columns
  longest : ∀ other, other <+: cs → rowWidth other ≤ columns → other <+: front

/-- A text is a front of what fits just if it is a front of the whole and fits itself. -/
theorem front_fitting_iff {columns : Nat} {front cs : List Char} :
    front <+: fitting columns cs ↔ front <+: cs ∧ rowWidth front ≤ columns := by
  induction cs generalizing columns front with
  | nil =>
    rw [fitting, List.prefix_nil]
    exact ⟨fun h => ⟨h, h ▸ Nat.zero_le _⟩, And.left⟩
  | cons c cs ih =>
    cases front with
    | nil => simp [rowWidth]
    | cons d front =>
      rw [fitting, List.cons_prefix_cons, rowWidth]
      split
      · next hc =>
        rw [List.cons_prefix_cons, ih]
        constructor
        · rintro ⟨rfl, hfront, hfits⟩
          exact ⟨⟨rfl, hfront⟩, by omega⟩
        · rintro ⟨⟨rfl, hfront⟩, hfits⟩
          exact ⟨rfl, hfront, by omega⟩
      · next hc =>
        rw [List.prefix_nil]
        refine iff_of_false (List.cons_ne_nil d front) ?_
        rintro ⟨⟨rfl, -⟩, hfits⟩
        omega

/-- What fits is a front of the text. -/
theorem fitting_front (columns : Nat) (cs : List Char) : fitting columns cs <+: cs :=
  (front_fitting_iff.1 (List.prefix_refl _)).1

/-- No longer front fits, since one that fits is a front of what was kept. -/
theorem longestFront_fitting (columns : Nat) (cs : List Char) :
    LongestFront columns cs (fitting columns cs) where
  isFront := fitting_front columns cs
  fits := rowWidth_fitting_le columns cs
  longest _ hfront hfits := front_fitting_iff.2 ⟨hfront, hfits⟩

/-- **What fits is the longest front that does**, and there is only one. -/
theorem longestFront_iff {columns : Nat} {cs front : List Char} :
    LongestFront columns cs front ↔ front = fitting columns cs := by
  constructor
  · intro h
    have hall := longestFront_fitting columns cs
    have hle := hall.longest front h.isFront h.fits
    exact hle.eq_of_length_le (h.longest _ hall.isFront hall.fits).length_le
  · rintro rfl
    exact longestFront_fitting columns cs

/-- A text that fits is kept whole. -/
theorem fitting_of_le {columns : Nat} {cs : List Char} (h : rowWidth cs ≤ columns) :
    fitting columns cs = cs :=
  (fitting_front columns cs).eq_of_length_le
    (front_fitting_iff.2 ⟨List.prefix_refl cs, h⟩).length_le

end TuneEditor
