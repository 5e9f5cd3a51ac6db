/-
# Columns, characters and bytes

A row is measured character by character, so its columns add up (`rowWidth_append`).

| characters | columns |
|---|---|
| ASCII, and up to U+00A0 | one each (`charWidth_of_narrow`) |
| any | no more than bytes in UTF-8 (`charWidth_le_utf8Size`) |

The tables of the widths are needed for one fact only, where their first ranges begin.
So a text takes no more columns than bytes, and as many just if each of its characters
does (`rowWidth_eq_size_iff`).
-/

import TuneEditor.Text.Integer
import TuneEditor.Text.Utf8
import TuneEditor.Text.Width

namespace TuneEditor

/-- A character of a set is not below the place where all its ranges begin. -/
theorem CodePoints.le_toNat_of_holds {ranges : CodePoints} {n : Nat} (h : ∀ r ∈ ranges, n ≤ r.1)
    {c : Char} (hc : ranges.holds c = true) : n ≤ c.toNat := by
  obtain ⟨r, hr, hle, -⟩ := holds_iff.1 hc
  exact Nat.le_trans (h r hr) hle

namespace Text

set_option maxRecDepth 10000 in
/-- The table of characters without width starts behind U+00A0. -/
theorem lt_toNat_of_zeroWidth {c : Char} (h : zeroWidth.holds c = true) : 0xA0 < c.toNat :=
  CodePoints.le_toNat_of_holds (n := 0xA1) (by decide) h

set_option maxRecDepth 10000 in
/-- So does the table of wide characters. -/
theorem lt_toNat_of_wide {c : Char} (h : wide.holds c = true) : 0xA0 < c.toNat :=
  CodePoints.le_toNat_of_holds (n := 0xA1) (by decide) h

/-- Letters, digits, signs and controls in front of the first mark take one column. -/
theorem charWidth_of_narrow {c : Char} (h : c.toNat ≤ 0xA0) : charWidth c = 1 := by
  have hzero : ¬ zeroWidth.holds c = true := fun hc => Nat.not_lt_of_le h (lt_toNat_of_zeroWidth hc)
  have hwide : ¬ wide.holds c = true := fun hc => Nat.not_lt_of_le h (lt_toNat_of_wide hc)
  have hbeyyal : ¬ (c == '\u17D8') = true := by
    intro heq
    rw [eq_of_beq heq] at h
    exact absurd h (by decide)
  rw [charWidth, if_neg hzero, if_neg hwide, if_neg hbeyyal]

/-- A character that takes one byte is an ASCII character. -/
theorem utf8Size_eq_one_iff {c : Char} : c.utf8Size = 1 ↔ c.toNat < 0x80 := by
  rw [Char.utf8Size_eq_one_iff, UInt32.le_iff_toNat_le]
  exact Nat.lt_succ_iff.symm

/-- **No character takes more columns than bytes.** -/
theorem charWidth_le_utf8Size (c : Char) : charWidth c ≤ c.utf8Size := by
  unfold charWidth
  split
  · exact Nat.zero_le _
  · split
    · next hwide =>
      have hpos := c.utf8Size_pos
      have hne : c.utf8Size ≠ 1 := fun hone =>
        absurd (utf8Size_eq_one_iff.1 hone) (by have := lt_toNat_of_wide hwide; omega)
      omega
    · split
      · next heq =>
        rw [eq_of_beq heq]
        decide
      · exact c.utf8Size_pos

/-- The characters that labels and numbers are made of: those of ASCII that are no controls. -/
def IsLabel (c : Char) : Prop :=
  32 ≤ c.toNat ∧ c.toNat < 0x80

instance : DecidablePred IsLabel :=
  fun _ => inferInstanceAs (Decidable (_ ∧ _))

/-- A character of a label takes as many columns as bytes, namely one. -/
theorem charWidth_of_isLabel {c : Char} (h : IsLabel c) : charWidth c = c.utf8Size := by
  have hascii := h.2
  rw [charWidth_of_narrow (by omega), utf8Size_eq_one_iff.2 hascii]

/-! ### Texts -/

/-- The widths of two texts drawn one behind the other add up. -/
theorem rowWidth_append (a b : List Char) : rowWidth (a ++ b) = rowWidth a + rowWidth b := by
  induction a with
  | nil => exact (Nat.zero_add _).symm
  | cons c a ih => rw [List.cons_append, rowWidth, rowWidth, ih, Nat.add_assoc]

/-- Up to U+00A0 each character takes one column. -/
theorem rowWidth_of_narrow {cs : List Char} (h : ∀ c ∈ cs, c.toNat ≤ 0xA0) :
    rowWidth cs = cs.length := by
  induction cs with
  | nil => rfl
  | cons c cs ih =>
    obtain ⟨hc, hcs⟩ := List.forall_mem_cons.1 h
    rw [rowWidth, charWidth_of_narrow hc, ih hcs, List.length_cons, Nat.add_comm]

/-- A label takes as many columns as it has characters. -/
theorem rowWidth_of_isLabel {cs : List Char} (h : ∀ c ∈ cs, IsLabel c) :
    rowWidth cs = cs.length :=
  rowWidth_of_narrow fun c hc => by have := (h c hc).2; omega

/-- A text takes no more columns than bytes. -/
theorem rowWidth_le_size (cs : List Char) : rowWidth cs ≤ Utf8.size cs := by
  induction cs with
  | nil => exact Nat.le_refl 0
  | cons c cs ih => exact Nat.add_le_add (charWidth_le_utf8Size c) ih

/-- **A text takes as many columns as bytes just if each of its characters does**: what one of them
lacks no other makes up for. -/
theorem rowWidth_eq_size_iff {cs : List Char} :
    rowWidth cs = Utf8.size cs ↔ ∀ c ∈ cs, charWidth c = c.utf8Size := by
  induction cs with
  | nil => simp [rowWidth]
  | cons c cs ih =>
    have hc := charWidth_le_utf8Size c
    have hcs := rowWidth_le_size cs
    rw [List.forall_mem_cons, ← ih, rowWidth, Utf8.size_cons]
    omega

/-! ### Numbers -/

/-- Digits are fit for a label. -/
theorem isLabel_of_mem_ofNat {n : Nat} {c : Char} (h : c ∈ ofNat n) : IsLabel c := by
  have hdigit : c.isDigit = true := Nat.isDigit_of_mem_toDigits (by decide) (by decide) h
  simp only [Char.isDigit, Bool.and_eq_true, decide_eq_true_eq] at hdigit
  exact ⟨Nat.le_trans (by decide) hdigit.1, Nat.lt_of_le_of_lt hdigit.2 (by decide)⟩

/-- A smaller number has no more digits. -/
theorem length_ofNat_le {m n : Nat} (h : m ≤ n) : (ofNat m).length ≤ (ofNat n).length := by
  have hpos : 0 < (ofNat n).length := Nat.length_toDigits_pos
  have hn : n < 10 ^ (ofNat n).length := (Nat.length_toDigits_le_iff (by decide) hpos).1 (Nat.le_refl _)
  exact (Nat.length_toDigits_le_iff (by decide) hpos).2 (Nat.lt_of_le_of_lt h hn)

/-- A number is read off its digits. -/
theorem ofNat_injective : Function.Injective ofNat := by
  intro m n h
  have hread := congrArg (Nat.ofDigitChars 10 · 0) h
  simp only [ofNat, Nat.ofDigitChars_toDigits (by decide : 1 < 10) (by decide : 10 ≤ 10)] at hread
  exact hread

end Text
end TuneEditor
