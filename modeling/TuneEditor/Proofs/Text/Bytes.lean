/-
# Places in a text by their bytes

A byte position is a place in a text if a character starts there or the text
ends there: from that byte on the text reads `rest` (`Utf8.At`).  What it reads
is determined by the position (`At.unique`), since two fronts of a text that
take the same bytes are the same (`append_inj_of_size`).

`Utf8.slice?` is the part of a text between two byte positions.
-/

import TuneEditor.Text.Utf8

namespace TuneEditor
namespace Utf8

/-- From a byte position on a text reads `rest`. -/
def At (cs : List Char) (pos : Nat) (rest : List Char) : Prop :=
  ∃ before : List Char, cs = before ++ rest ∧ size before = pos

/-- The part of a text between two byte positions; nothing if one of them is no place in the text
or they are out of order. -/
def slice? (cs : List Char) (start stop : Nat) : Option (List Char) :=
  if start ≤ stop then
    match splitAt? cs start with
    | some (_, rest) => (splitAt? rest (stop - start)).map Prod.fst
    | none => none
  else none

/-- A text has no more characters than bytes. -/
theorem length_le_size (cs : List Char) : cs.length ≤ size cs := by
  induction cs with
  | nil => exact Nat.le_refl 0
  | cons c cs ih =>
    have hc := c.utf8Size_pos
    rw [List.length_cons, size_cons]
    omega

/-- A text that takes no bytes is empty. -/
theorem eq_nil_of_size {cs : List Char} (h : size cs = 0) : cs = [] := by
  have hlength := length_le_size cs
  exact List.eq_nil_of_length_eq_zero (by omega)

/-- Only the empty text has no bytes. -/
theorem size_pos {cs : List Char} (h : cs ≠ []) : 0 < size cs :=
  Nat.pos_of_ne_zero fun h₀ => h (eq_nil_of_size h₀)

/-- Two fronts of a text that take the same bytes are the same. -/
theorem append_inj_of_size {before rest before' rest' : List Char}
    (h : before ++ rest = before' ++ rest') (hsize : size before = size before') :
    before = before' ∧ rest = rest' := by
  have hsplit := splitAt?_size before rest
  rw [h, hsize, splitAt?_size] at hsplit
  obtain ⟨rfl, rfl⟩ := Prod.mk.inj (Option.some.inj hsplit)
  exact ⟨rfl, rfl⟩

/-- A part is cut out between the bytes at its ends. -/
theorem slice?_append (before part after : List Char) :
    slice? (before ++ (part ++ after)) (size before) (size before + size part) = some part := by
  unfold slice?
  rw [if_pos (Nat.le_add_right _ _), splitAt?_size]
  dsimp only
  rw [Nat.add_sub_cancel_left, splitAt?_size]
  rfl

namespace At

variable {cs rest rest' : List Char} {pos : Nat}

/-- At the bytes of a front begins what follows it. -/
theorem append (before rest : List Char) : At (before ++ rest) (size before) rest :=
  ⟨before, rfl, rfl⟩

/-- What a text reads from a byte on is determined by the byte. -/
theorem unique (h : At cs pos rest) (h' : At cs pos rest') : rest = rest' := by
  obtain ⟨before, hcs, hsize⟩ := h
  obtain ⟨before', hcs', hsize'⟩ := h'
  rw [hcs] at hcs'
  exact (append_inj_of_size hcs' (hsize.trans hsize'.symm)).2

/-- A place behind another in a text. -/
theorem add {part : List Char} (h : At cs pos (part ++ rest)) : At cs (pos + size part) rest := by
  obtain ⟨before, rfl, rfl⟩ := h
  exact ⟨before ++ part, (List.append_assoc ..).symm, size_append ..⟩

/-- Where a character starts there are bytes left. -/
theorem lt_size {c : Char} (h : At cs pos (c :: rest)) : pos < size cs := by
  obtain ⟨before, rfl, rfl⟩ := h
  have hc := c.utf8Size_pos
  rw [size_append, size_cons]
  omega

end At
end Utf8
end TuneEditor
