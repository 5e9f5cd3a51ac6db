/-
# What neighbours make of each other's columns

A text is measured as a whole from right to left, and each character adds its columns to
those of the text behind it.  A drawn row adds up the columns that its characters have by
themselves.  The two differ by what the characters add on top of their own columns, or fall
short of them, because of what stands behind them (`joining`, `width_eq`).

| text | by themselves | joined |
|---|---|---|
| a digit and an emoji selector | 1 + 0 | 2 |
| a thumb and a skin tone | 2 + 2 | 2 |
| an Arabic lam and an alef | 1 + 1 | 1 |
| a Khmer letter, its subscript sign and another | 1 + 0 + 1 | 1 |

A character may take back a column that the text behind it was given, so that sum is one of
integers.  It never falls below zero: what a text begins with vouches for the column that may
be taken back (`Beginning.least`, `least_le_measure`).

Characters are joined in pairs of neighbours.  Where no two neighbours join each other, both
widths are the same (`joining_eq_zero_of_isChain`).
-/

import Mathlib.Data.List.Chain
import TuneEditor.Proofs.Text.Width

namespace TuneEditor

/-- Of two sets whose ranges lie apart a character is in one at most. -/
theorem CodePoints.not_holds_of_apart {ranges others : CodePoints}
    (h : ∀ r ∈ ranges, ∀ s ∈ others, r.2 < s.1 ∨ s.2 < r.1) {c : Char}
    (hc : ranges.holds c = true) : ¬ others.holds c = true := by
  intro hother
  obtain ⟨r, hr, hle, hge⟩ := holds_iff.1 hc
  obtain ⟨s, hs, hle', hge'⟩ := holds_iff.1 hother
  have := h r hr s hs
  omega

namespace Text

/-! ### A width is no less than nothing -/

namespace Beginning

/-- The columns that a text with such a beginning takes at least: one if a character in front of it
may take one back. -/
def least : Beginning → Int
  | khmerLetter | tifinaghJoiner | flagHalfJoined | oddFlagHalvesJoined => 1
  | _ => 0

/-- No beginning vouches for less than nothing. -/
theorem least_nonneg (b : Beginning) : 0 ≤ b.least := by
  unfold least
  split <;> decide

/-- A zero-width joiner in front takes no columns back. -/
theorem least_joined (b : Beginning) : b.joined.least = b.least := by
  cases b <;> rfl

end Beginning

namespace Next

/-- A selector in front is no letter that could lose a column. -/
theorem least_select_le (n : Next) (s : Selector) :
    (n.select s).beginning.least ≤ n.beginning.least := by
  unfold select
  split
  · exact Int.le_refl _
  · exact n.beginning.least_nonneg

/-- Without a selector no more columns are vouched for than with it. -/
theorem least_dropSelector_le (n : Next) :
    n.dropSelector.beginning.least ≤ n.beginning.least := by
  unfold dropSelector
  split
  · exact Int.le_refl _
  · split
    · exact Int.le_refl _
    · exact n.beginning.least_nonneg

end Next

/-- A Khmer letter has columns: it is in none of the ranges without width. -/
theorem charWidth_pos_of_isKhmerLetter {c : Char} (h : isKhmerLetter c = true) :
    0 < charWidth c := by
  have hzero : ¬ zeroWidth.holds c = true := CodePoints.not_holds_of_apart (by decide +kernel) h
  rw [charWidth, if_neg hzero]
  split
  · decide
  · split <;> decide

/-- The one letter from which a column may be taken back has a column. -/
theorem least_beginningOf_le (c : Char) : (beginningOf c).beginning.least ≤ charWidth c := by
  have hnonneg : (0 : Int) ≤ charWidth c := Int.natCast_nonneg _
  have hkhmer : isKhmerLetter c = true → (1 : Int) ≤ charWidth c :=
    fun h => Int.ofNat_lt.2 (charWidth_pos_of_isKhmerLetter h)
  unfold beginningOf
  repeat'
    refine iteInduction (motive := fun n : Next => n.beginning.least ≤ charWidth c)
      (fun h => ?_) (fun _ => ?_)
  all_goals first | exact hnonneg | exact hkhmer h

/-- A character that joins takes a column back only from a beginning that has one, and one that
begins what may lose a column adds it. -/
theorem least_le_of_join {b b' : Beginning} {c : Char} {columns : Int}
    (h : join b c = some (columns, b')) : b'.least ≤ b.least + columns := by
  cases b <;> grind [join, Beginning.least]

/-- The same for a character above U+00A0: it takes a column back only where the beginning has
one. -/
theorem least_addLetter_le (b : Beginning) (c : Char) :
    (addLetter b c).2.beginning.least ≤ b.least + (addLetter b c).1 := by
  unfold addLetter
  split
  · change Beginning.least (if c == '\u200D' then b.joined else b) ≤ b.least + 0
    rw [Int.add_zero]
    split
    · exact Int.le_of_eq b.least_joined
    · exact Int.le_refl _
  · split
    · next columns b' hjoin => exact least_le_of_join hjoin
    · exact Int.le_trans (least_beginningOf_le c) (Int.le_add_of_nonneg_left b.least_nonneg)

/-- One character in front of a text: its beginning vouches for the columns of both. -/
theorem least_addChar_le (n : Next) (c : Char) :
    (addChar n c).2.beginning.least ≤ n.beginning.least + (addChar n c).1 := by
  have hnonneg := n.beginning.least_nonneg
  have hone : 0 ≤ n.beginning.least + 1 := by omega
  unfold addChar
  split
  · refine Int.add_nonneg hnonneg ?_
    split <;> decide
  · -- What is behind the character, without a selector that it has no use for.
    have hbehind : (if n.selector == some .emoji then n.dropSelector else n).beginning.least ≤
        n.beginning.least := by
      split
      · exact n.least_dropSelector_le
      · exact Int.le_refl _
    generalize (if n.selector == some .emoji then n.dropSelector else n) = m at hbehind ⊢
    have hselect : ∀ s, (m.select s).beginning.least ≤ n.beginning.least + 0 := fun s => by
      have := m.least_select_le s
      omega
    dsimp only
    split
    · split
      · exact hone
      · split
        · exact Int.add_nonneg hnonneg (Int.le_refl 0)
        · exact hone
    · split
      · exact Int.le_trans (least_beginningOf_le c) (Int.le_add_of_nonneg_left hnonneg)
      · split
        · exact hselect .emoji
        · split
          · exact hselect .text
          · split
            · exact hone
            · have hletter := least_addLetter_le m.dropSelector.beginning c
              have hdrop := m.least_dropSelector_le
              omega

/-- **What a text begins with vouches for its columns.** -/
theorem least_le_measure (cs : List Char) : (measure cs).2.beginning.least ≤ (measure cs).1 := by
  induction cs with
  | nil => exact Int.le_refl 0
  | cons c cs ih =>
    have hadd := least_addChar_le (measure cs).2 c
    rw [measure]
    dsimp only
    omega

/-! ### Columns that come of joining -/

/-- The columns that the characters of a text add on top of their own, because of what stands
behind them. -/
def joining : List Char → Int
  | [] => 0
  | c :: cs => (addChar (measure cs).2 c).1 - charWidth c + joining cs

/-- A text measures what its characters do by themselves and what joining makes of it. -/
theorem measure_eq (cs : List Char) : (measure cs).1 = rowWidth cs + joining cs := by
  induction cs with
  | nil => rfl
  | cons c cs ih =>
    rw [measure, rowWidth, joining]
    dsimp only
    push_cast
    omega

/-- **The width of a text is that of its characters and what joining makes of it.** -/
theorem width_eq (cs : List Char) : (width cs : Int) = rowWidth cs + joining cs := by
  have hleast := least_le_measure cs
  have hnonneg := (measure cs).2.beginning.least_nonneg
  rw [width, Int.toNat_of_nonneg (Int.le_trans hnonneg hleast), measure_eq]

/-- The two widths are the same just if joining comes to nothing on the whole. -/
theorem width_eq_rowWidth_iff {cs : List Char} : width cs = rowWidth cs ↔ joining cs = 0 := by
  have := width_eq cs
  omega

/-- Whether a character in front of another is not measured as by itself: it adds other columns, or
begins something else. -/
def Joins (c d : Char) : Prop :=
  addChar (addChar {} d).2 c ≠ addChar {} c

instance : DecidableRel Joins :=
  fun _ _ => inferInstanceAs (Decidable (_ ≠ _))

/-- Up to U+00A0 a character with nothing behind it takes a column, and only a line feed begins
anything. -/
theorem addChar_nil_of_narrow {c : Char} (h : c ≤ '\u00A0') :
    addChar {} c = (1, if c == '\n' then { beginning := .lineFeed } else {}) := by
  have hemoji : ¬ ((({} : Next).selector == some .emoji && variationBase.holds c) = true) := by
    rintro ⟨⟩
  rw [addChar, if_neg hemoji, if_pos h]
  split
  · rfl
  · rw [if_neg (by simp)]

/-- Above U+00A0 a character with nothing behind it is measured by itself. -/
theorem addChar_nil_of_not_narrow {c : Char} (h : ¬ c ≤ '\u00A0') : addChar {} c = alone c := by
  have hemoji : ¬ ((({} : Next).selector == some .emoji && variationBase.holds c) = true) := by
    rintro ⟨⟩
  rw [addChar, if_neg hemoji, if_neg h]
  rfl

/-- A character with nothing behind it has its own columns. -/
theorem fst_addChar_nil (c : Char) : (addChar {} c).1 = charWidth c := by
  by_cases hnarrow : c ≤ '\u00A0'
  · rw [addChar_nil_of_narrow hnarrow, charWidth_of_narrow hnarrow]
    rfl
  · rw [addChar_nil_of_not_narrow hnarrow]
    rfl

/-- Nothing joins a character up to U+00A0 that stands behind it, but for a line feed. -/
theorem not_joins_of_narrow {c d : Char} (hd : d ≤ '\u00A0') (hnewline : d ≠ '\n') :
    ¬ Joins c d := by
  rw [Joins, addChar_nil_of_narrow hd, if_neg (by simpa using hnewline)]
  exact not_not_intro rfl

/-- A character that joins nothing in a chain of those that do not adds what it adds by itself. -/
theorem addChar_measure_of_isChain {c : Char} {cs : List Char}
    (h : (c :: cs).IsChain fun c d => ¬ Joins c d) :
    addChar (measure cs).2 c = addChar {} c := by
  induction cs generalizing c with
  | nil => rfl
  | cons d cs ih =>
    obtain ⟨hnot, hrest⟩ := List.isChain_cons_cons.1 h
    change addChar (addChar (measure cs).2 d).2 c = _
    rw [ih hrest]
    exact not_not.1 hnot

/-- **Where no two neighbours join, characters have their own columns.** -/
theorem joining_eq_zero_of_isChain {cs : List Char} (h : cs.IsChain fun c d => ¬ Joins c d) :
    joining cs = 0 := by
  induction cs with
  | nil => rfl
  | cons c cs ih =>
    rw [joining, addChar_measure_of_isChain h, fst_addChar_nil, ih h.tail]
    omega

/-- Wide signs do not join, an accent does not join the letter that it stands on. -/
example : ['你', '好', 'e', '\u0301'].IsChain fun c d => ¬ Joins c d := by
  decide +kernel

end Text
end TuneEditor
