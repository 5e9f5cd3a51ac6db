/-
# Positions counted in bytes

A text is a list of characters, but a scan reports its steps by the bytes that
the text takes in UTF-8.  `Utf8.size` measures a text, and `Utf8.splitAt?`
finds the place a byte position means: it fails inside a character and past
the end, and it undoes `size` (`splitAt?_size`).
-/

namespace TuneEditor
namespace Utf8

/-- The number of bytes a text takes. -/
def size : List Char → Nat
  | [] => 0
  | c :: cs => c.utf8Size + size cs

@[simp] theorem size_nil : size [] = 0 := rfl

@[simp] theorem size_cons (c : Char) (cs : List Char) : size (c :: cs) = c.utf8Size + size cs := rfl

/-- The bytes of two texts that are put together add up. -/
@[simp] theorem size_append (a b : List Char) : size (a ++ b) = size a + size b := by
  induction a with
  | nil => rw [List.nil_append, size_nil, Nat.zero_add]
  | cons c a ih => rw [List.cons_append, size_cons, size_cons, ih, Nat.add_assoc]

/-- The text before a byte position and the text from it on, if a character starts or the text
ends there. -/
def splitAt? : List Char → Nat → Option (List Char × List Char)
  | cs, 0 => some ([], cs)
  | [], _ + 1 => none
  | c :: cs, n + 1 =>
    if c.utf8Size ≤ n + 1 then
      (splitAt? cs (n + 1 - c.utf8Size)).map fun (before, after) => (c :: before, after)
    else none

/-- Every text splits at the size of what stands in front. -/
theorem splitAt?_size (a b : List Char) : splitAt? (a ++ b) (size a) = some (a, b) := by
  induction a with
  | nil => cases b <;> rfl
  | cons c a ih =>
    have hc : 0 < c.utf8Size := c.utf8Size_pos
    obtain ⟨n, hn⟩ : ∃ n, size (c :: a) = n + 1 := ⟨size (c :: a) - 1, by simp; omega⟩
    rw [hn, List.cons_append, splitAt?]
    rw [size_cons] at hn
    rw [if_pos (by omega), show n + 1 - c.utf8Size = size a by omega, ih]
    rfl

/-- A split loses nothing, and its position is the size of the text before it. -/
theorem eq_append_of_splitAt? {cs a b : List Char} {n : Nat} (h : splitAt? cs n = some (a, b)) :
    cs = a ++ b ∧ size a = n := by
  induction cs generalizing n a with
  | nil =>
    cases n with
    | zero => simp [splitAt?] at h; simp [h]
    | succ n => simp [splitAt?] at h
  | cons c cs ih =>
    cases n with
    | zero => simp [splitAt?] at h; simp [h]
    | succ n =>
      rw [splitAt?] at h
      split at h
      · rename_i hc
        obtain ⟨⟨x, y⟩, hxy, he⟩ := Option.map_eq_some_iff.1 h
        obtain ⟨rfl, rfl⟩ := Prod.mk.inj he
        obtain ⟨h1, h2⟩ := ih hxy
        refine ⟨by rw [h1]; rfl, ?_⟩
        rw [size_cons, h2]
        omega
      · cases h

end Utf8
end TuneEditor
