/-
# How far a scan looks ahead

Whether a rule fits is settled by the character at the front and the one behind it
(`Rule.taken_pos_iff`): a letter is a field or a key with a colon behind it, and a
slash begins a length with a digit behind it.  How much a rule takes is settled by
the character that ends it, if there is one (`Rule.taken_append_of_lt`).

| what a lexeme waits for | the character that settles it |
|---|---|
| a header field, a length behind a slash, a second accidental | the next one |
| blanks, a comment, octave marks, digits | the first of another class |
| a chord | its second quotation mark, which is part of it |

So a lexeme that does not reach to the end of a text is the same when more text
stands behind (`Lexeme.first_append_of_lt`), and of the steps of a text only the
last can change (`dropLast_steps_prefix`).
-/

import TuneEditor.Proofs.Notation.Header

namespace TuneEditor

namespace Rule

/-- **Two characters settle whether a rule fits.** -/
theorem taken_pos_iff (r : Rule) (c d : Char) (cs : List Char) :
    0 < r.taken (c :: d :: cs) ↔ 0 < r.taken [c, d] := by
  cases r with
  | field => rfl
  | keyField => rfl
  | comment => simp only [taken]; split <;> omega
  | bar => rfl
  | note => simp only [taken]; split <;> omega
  | accidental => rfl
  | duration =>
    have hbehind : ∀ ds, 0 < (if run Char.isDigit (d :: ds) = 0 then 0
        else 1 + run Char.isDigit (d :: ds)) ↔ d.isDigit = true := by
      intro ds
      have hrun : 0 < run Char.isDigit (d :: ds) ↔ d.isDigit = true := run_pos_iff
      rw [← hrun]
      split <;> omega
    simp only [taken]
    split
    · rw [hbehind, hbehind]
    · rw [run_pos_iff, run_pos_iff]
  | rest => rfl
  | chord =>
    simp only [taken]
    split
    · refine iff_of_true ?_ ?_ <;> split <;> simp
    · rfl
  | slur => rfl

/-- **What a rule takes is settled where it ends**, if it ends in front of the end of the text. -/
theorem taken_append_of_lt (r : Rule) {c : Char} {cs : List Char} (hne : cs ≠ [])
    (h : r.taken (c :: cs) < (c :: cs).length) (more : List Char) :
    r.taken (c :: (cs ++ more)) = r.taken (c :: cs) := by
  obtain ⟨d, ds, rfl⟩ := List.exists_cons_of_ne_nil hne
  rw [List.length_cons] at h
  cases r with
  | field => rfl
  | keyField => rfl
  | comment =>
    simp only [taken] at h ⊢
    split
    · next hc =>
      rw [if_pos hc] at h
      rw [run_append_of_lt (by omega)]
    · rfl
  | bar => rfl
  | note =>
    simp only [taken] at h ⊢
    split
    · next hc =>
      rw [if_pos hc] at h
      rw [run_append_of_lt (by omega)]
    · rfl
  | accidental => rfl
  | duration =>
    simp only [taken] at h ⊢
    by_cases hslash : (c == '/') = true
    · rw [if_pos hslash] at h
      -- No digit at all behind the slash is an end as well.
      have hlt : run Char.isDigit (d :: ds) < (d :: ds).length := by
        split at h
        · next hnone => rw [hnone]; exact Nat.succ_pos _
        · omega
      rw [run_append_of_lt hlt, if_pos hslash, if_pos hslash]
    · rw [if_neg hslash] at h
      rw [if_neg hslash, if_neg hslash, ← List.cons_append, run_append_of_lt h]
  | rest => rfl
  | chord =>
    simp only [taken] at h ⊢
    split
    · next hquote =>
      -- An open chord would reach to the end.
      have hmem : '"' ∈ d :: ds := by
        by_contra hopen
        rw [if_pos hquote, if_neg hopen] at h
        exact Nat.lt_irrefl _ h
      rw [if_pos hmem, if_pos (List.mem_append_left _ hmem),
        run_append_of_lt (run_lt_of_mem hmem (by rfl))]
    · rfl
  | slur => rfl

end Rule

namespace Lexeme

/-- The first lexeme is as long as its extent. -/
theorem length_chars_first (p : Place) (c : Char) (cs : List Char) :
    (first p c cs).chars.length = (extent p c cs).1 := by
  rw [first, List.length_take, Nat.min_eq_left (extent_le p c cs)]

/-- A lexeme that ends in front of the end of the text would end there too if the text went on. -/
theorem extent_append_of_lt (p : Place) {c : Char} {cs : List Char}
    (h : (extent p c cs).1 < (c :: cs).length) (more : List Char) :
    extent p c (cs ++ more) = extent p c cs := by
  have hpos := extent_pos p c cs
  have hne : cs ≠ [] := by
    rintro rfl
    rw [List.length_singleton] at h
    omega
  obtain ⟨d, ds, rfl⟩ := List.exists_cons_of_ne_nil hne
  unfold extent at h ⊢
  split
  · next hblank =>
    rw [if_pos hblank] at h
    rw [← List.cons_append, Rule.run_append_of_lt h]
  · next hblank =>
    rw [if_neg hblank] at h
    -- The same rule fits, as the two characters in front are the same.
    simp only [List.cons_append, Rule.taken_pos_iff _ c d] at h ⊢
    split
    · next r hr =>
      rw [hr] at h
      rw [← List.cons_append, Rule.taken_append_of_lt r hne h]
    · rfl

/-- **A lexeme that ends in front of the end of a text** is the same whatever stands behind the
text. -/
theorem first_append_of_lt (p : Place) {c : Char} {cs : List Char}
    (h : (first p c cs).chars.length < (c :: cs).length) (more : List Char) :
    first p c (cs ++ more) = first p c cs := by
  have hle := extent_le p c cs
  rw [length_chars_first] at h
  unfold first
  rw [extent_append_of_lt p h]
  dsimp only
  rw [← List.cons_append, List.take_append_of_le_length hle]

end Lexeme

/-- The lexemes of a text but for the last are the first of any longer text. -/
theorem dropLast_lexemes_prefix (p : Place) (cs more : List Char) :
    (lexemes p cs).dropLast <+: lexemes p (cs ++ more) := by
  induction p, cs using lexemes.induct with
  | case1 p =>
    rw [lexemes]
    exact List.nil_prefix
  | case2 p c cs l ih =>
    have hlexemes : lexemes p (c :: cs) = l :: lexemes l.next ((c :: cs).drop l.chars.length) :=
      lexemes_cons p c cs
    by_cases hlt : l.chars.length < (c :: cs).length
    · have hfirst : Lexeme.first p c (cs ++ more) = l := Lexeme.first_append_of_lt p hlt more
      have hdrop : (c :: (cs ++ more)).drop l.chars.length =
          (c :: cs).drop l.chars.length ++ more := by
        rw [← List.cons_append, List.drop_append_of_le_length (Nat.le_of_lt hlt)]
      -- There are lexemes behind the first, so the last is one of them.
      have hrest : lexemes l.next ((c :: cs).drop l.chars.length) ≠ [] := by
        intro hnil
        have htext := flatMap_chars_lexemes l.next ((c :: cs).drop l.chars.length)
        rw [hnil, List.flatMap_nil, eq_comm, List.drop_eq_nil_iff] at htext
        omega
      rw [hlexemes, List.dropLast_cons_of_ne_nil hrest, List.cons_append, lexemes_cons, hfirst,
        hdrop, List.cons_prefix_cons]
      exact ⟨rfl, ih⟩
    · rw [hlexemes, List.drop_eq_nil_iff.2 (Nat.not_lt.1 hlt), lexemes]
      exact List.nil_prefix

/-- The steps of a text but for the last are those of its lexemes but for the last. -/
theorem dropLast_steps (region : Region) (cs : List Char) :
    (steps region cs).dropLast =
      (placed 0 (lexemes ⟨region, true⟩ cs).dropLast).map Step.ofPlaced := by
  have hlength : (placed 0 (lexemes ⟨region, true⟩ cs)).length =
      (lexemes ⟨region, true⟩ cs).length := by
    rw [← List.length_map Prod.snd, map_snd_placed]
  rw [steps_eq_map_placed, List.dropLast_eq_take, List.length_map, hlength, ← List.map_take,
    take_placed, ← List.dropLast_eq_take]

/-- **Text that is added changes the last step and no other.**  The steps of a text but for the last
begin the steps of every text that it begins, and the scan is in the same region behind each of
them. -/
theorem dropLast_steps_prefix (region : Region) (cs more : List Char) :
    (steps region cs).dropLast <+: steps region (cs ++ more) := by
  obtain ⟨behind, hbehind⟩ := dropLast_lexemes_prefix ⟨region, true⟩ cs more
  rw [dropLast_steps, steps_eq_map_placed, ← hbehind, placed_append, List.map_append]
  exact List.prefix_append _ _

/-- A slash is plain until a digit stands behind it, and a chord is open until it is closed. -/
example :
    (steps .body "A/".toList).map Step.stop = [1, 2] ∧
      (steps .body "A/2".toList).map Step.stop = [1, 3] ∧
      (steps .body "A\"G".toList).map Step.stop = [1, 3] ∧
      (steps .body "A\"G\"B".toList).map Step.stop = [1, 4, 5] := by
  refine ⟨?_, ?_, ?_, ?_⟩ <;> cbv

end TuneEditor
