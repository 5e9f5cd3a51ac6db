/-
# A text is words and the blanks between them

A word has characters, and no blank is among them.  A text is made of words with blanks
between them, and perhaps in front and behind (`Spaced`).  `Text.words` finds the words
that make a text, and no others do (`spaced_iff`).

Trimming takes the blanks in front and behind away; what is left is a word just if nothing
else stands between them (`trim_eq_iff`).  Small letters are no blanks and no capital is
one, so the words of a text in small letters are the words of the text in small letters
(`words_lower`).
-/

import Mathlib.Data.List.TakeWhile
import TuneEditor.Text.Blank

namespace TuneEditor
namespace Text

/-- A text of nothing but blanks. -/
def IsGap (cs : List Char) : Prop :=
  ∀ c ∈ cs, isBlank c = true

/-- A word has characters, and no blank is among them. -/
def IsWord (cs : List Char) : Prop :=
  cs ≠ [] ∧ ∀ c ∈ cs, isBlank c = false

instance (cs : List Char) : Decidable (IsGap cs) :=
  List.decidableBAll _ cs

/-- The texts that words make.  Blanks may stand in front of the first word and behind the last
one, and at least one stands between two words. -/
inductive Spaced : List (List Char) → List Char → Prop
  | gap {gap : List Char} : IsGap gap → Spaced [] gap
  | last {gap w : List Char} : IsGap gap → IsWord w → Spaced [w] (gap ++ w)
  | next {gap w rest : List Char} {b : Char} {ws : List (List Char)} :
    IsGap gap → IsWord w → isBlank b = true → Spaced ws rest →
      Spaced (w :: ws) (gap ++ (w ++ b :: rest))

/-! ### Words -/

theorem words_nil : words [] = [] := by
  simp [words]

/-- The words on either side of a blank are the words of the text. -/
theorem words_append_cons {c : Char} (hc : isBlank c = true) (x y : List Char) :
    words (x ++ c :: y) = words x ++ words y := by
  unfold words
  rw [List.splitOnP_append_cons x y hc, List.filter_append]

/-- A word by itself is the only word of the text. -/
theorem words_of_isWord {w : List Char} (hw : IsWord w) : words w = [w] := by
  unfold words
  rw [List.splitOnP_eq_singleton hw.2]
  simp [hw.1]

/-- Blanks in front of a text are in no word. -/
theorem words_append_of_isGap {gap : List Char} (hgap : IsGap gap) (cs : List Char) :
    words (gap ++ cs) = words cs := by
  induction gap with
  | nil => rfl
  | cons b gap ih =>
    obtain ⟨hb, hrest⟩ := List.forall_mem_cons.1 hgap
    have hfront : words (b :: (gap ++ cs)) = words [] ++ words (gap ++ cs) :=
      words_append_cons hb [] (gap ++ cs)
    rw [List.cons_append, hfront, words_nil, List.nil_append, ih hrest]

/-- The front of a text that has some property throughout ends where the property does. -/
theorem exists_span (p : Char → Bool) (cs : List Char) :
    ∃ front rest, cs = front ++ rest ∧ (∀ c ∈ front, p c = true) ∧
      ∀ c ∈ rest.head?, p c = false := by
  refine ⟨cs.takeWhile p, cs.dropWhile p, List.takeWhile_append_dropWhile.symm,
    fun c hc => List.mem_takeWhile_imp hc, fun c hc => ?_⟩
  have hstop := List.head?_dropWhile_not p cs
  rw [Option.mem_def.1 hc] at hstop
  exact hstop

namespace Spaced

/-- Words that make a text are found in it, in their order. -/
theorem words_eq {ws : List (List Char)} {cs : List Char} (h : Spaced ws cs) :
    words cs = ws := by
  induction h with
  | @gap gap hgap =>
    have hwords := words_append_of_isGap hgap []
    rwa [List.append_nil, words_nil] at hwords
  | last hgap hw => rw [words_append_of_isGap hgap, words_of_isWord hw]
  | next hgap hw hb _ ih =>
    rw [words_append_of_isGap hgap, words_append_cons hb, words_of_isWord hw, ih,
      List.singleton_append]

/-- Every text is made of words. -/
theorem exists_words (cs : List Char) : ∃ ws, Spaced ws cs := by
  -- By the length, since a word and the blank behind it are taken off at once.
  induction h : cs.length using Nat.strongRecOn generalizing cs with
  | ind n ih =>
    obtain ⟨gap, core, rfl, hgap, hcore⟩ := exists_span isBlank cs
    obtain ⟨w, rest, rfl, hw, hrest⟩ := exists_span (fun c => !isBlank c) core
    simp only [Bool.not_eq_true', Bool.not_eq_false'] at hw hrest
    cases rest with
    | nil =>
      rw [List.append_nil]
      cases w with
      | nil => exact ⟨[], by rw [List.append_nil]; exact .gap hgap⟩
      | cons c w => exact ⟨[c :: w], .last hgap ⟨List.cons_ne_nil c w, hw⟩⟩
    | cons b rest =>
      have hb : isBlank b = true := hrest b rfl
      have hne : w ≠ [] := by
        rintro rfl
        exact Bool.false_ne_true ((hcore b rfl).symm.trans hb)
      have hlt : rest.length < n := by
        rw [← h]
        simp only [List.length_append, List.length_cons]
        omega
      obtain ⟨ws, hws⟩ := ih _ hlt rest rfl
      exact ⟨w :: ws, .next hgap ⟨hne, hw⟩ hb hws⟩

end Spaced

/-- **The words of a text are the words that make it**, and no others do. -/
theorem spaced_iff {ws : List (List Char)} {cs : List Char} : Spaced ws cs ↔ words cs = ws := by
  refine ⟨Spaced.words_eq, ?_⟩
  rintro rfl
  obtain ⟨ws, hws⟩ := Spaced.exists_words cs
  rw [hws.words_eq]
  exact hws

/-! ### Blanks around a word -/

/-- A text is what trimming leaves, with blanks in front and behind. -/
theorem exists_gaps_trim (cs : List Char) :
    ∃ before behind, IsGap before ∧ IsGap behind ∧ cs = before ++ (trim cs ++ behind) := by
  refine ⟨cs.takeWhile isBlank, (((cs.dropWhile isBlank).reverse).takeWhile isBlank).reverse,
    fun c hc => List.mem_takeWhile_imp hc,
    fun c hc => List.mem_takeWhile_imp (List.mem_reverse.1 hc), ?_⟩
  unfold trim
  rw [← List.reverse_append, List.takeWhile_append_dropWhile, List.reverse_reverse,
    List.takeWhile_append_dropWhile]

/-- **What is left by trimming is a word just if the word is all that stands between blanks.** -/
theorem trim_eq_iff {w : List Char} (hw : IsWord w) {cs : List Char} :
    trim cs = w ↔ ∃ before behind, IsGap before ∧ IsGap behind ∧ cs = before ++ (w ++ behind) := by
  constructor
  · rintro rfl
    exact exists_gaps_trim cs
  · rintro ⟨before, behind, hbefore, hbehind, rfl⟩
    obtain ⟨hne, hblank⟩ := hw
    have hfront : (w ++ behind).dropWhile isBlank = w ++ behind := by
      obtain ⟨c, w, rfl⟩ := List.exists_cons_of_ne_nil hne
      exact List.dropWhile_cons_of_neg (Bool.eq_false_iff.1 (hblank c List.mem_cons_self))
    have hback : w.reverse.dropWhile isBlank = w.reverse := by
      obtain ⟨c, v, hv⟩ := List.exists_cons_of_ne_nil (mt List.reverse_eq_nil_iff.1 hne)
      have hc : c ∈ w := List.mem_reverse.1 (hv ▸ List.mem_cons_self)
      rw [hv]
      exact List.dropWhile_cons_of_neg (Bool.eq_false_iff.1 (hblank c hc))
    unfold trim
    rw [List.dropWhile_append_of_pos hbefore, hfront, List.reverse_append,
      List.dropWhile_append_of_pos fun c hc => hbehind c (List.mem_reverse.1 hc), hback,
      List.reverse_reverse]

/-! ### Small letters -/

/-- A small letter has a code point 32 above that of its capital. -/
theorem toNat_toLower (c : Char) :
    c.toLower.toNat = if 65 ≤ c.toNat ∧ c.toNat ≤ 90 then c.toNat + 32 else c.toNat := by
  unfold Char.toLower
  have hcapital : c.val ≥ 'A'.val ∧ c.val ≤ 'Z'.val ↔ 65 ≤ c.toNat ∧ c.toNat ≤ 90 := by
    rw [ge_iff_le, UInt32.le_iff_toNat_le, UInt32.le_iff_toNat_le]
    rfl
  by_cases h : 65 ≤ c.toNat ∧ c.toNat ≤ 90
  · have hle : c.val.toNat ≤ 90 := h.2
    rw [dif_pos (hcapital.2 h), if_pos h]
    change (c.val + 32).toNat = c.val.toNat + 32
    rw [UInt32.toNat_add]
    simp
    omega
  · rw [dif_neg (mt hcapital.1 h), if_neg h]

/-- A character is a blank just if its small form is. -/
theorem isBlank_toLower (c : Char) : isBlank c.toLower = isBlank c := by
  unfold isBlank
  rw [toNat_toLower]
  dsimp only
  split
  · rw [Bool.eq_iff_iff]
    simp
    omega
  · rfl

/-- Small letters have no smaller ones. -/
theorem lower_lower (cs : List Char) : lower (lower cs) = lower cs := by
  unfold lower
  rw [List.map_map]
  refine List.map_congr_left fun c _ => Char.toNat_inj.1 ?_
  simp only [Function.comp_apply, toNat_toLower]
  by_cases h : 65 ≤ c.toNat ∧ c.toNat ≤ 90
  · rw [if_pos h, if_neg (by omega)]
  · rw [if_neg h, if_neg h]

/-- Blanks stay blanks in small letters. -/
theorem IsGap.lower {gap : List Char} (h : IsGap gap) : IsGap (lower gap) := by
  intro c hc
  obtain ⟨d, hd, rfl⟩ := List.mem_map.1 hc
  rw [isBlank_toLower]
  exact h d hd

/-- A word stays a word in small letters. -/
theorem IsWord.lower {w : List Char} (h : IsWord w) : IsWord (lower w) := by
  refine ⟨mt List.map_eq_nil_iff.1 h.1, fun c hc => ?_⟩
  obtain ⟨d, hd, rfl⟩ := List.mem_map.1 hc
  rw [isBlank_toLower]
  exact h.2 d hd

/-- Capitals or small letters, the same words stand in the same places. -/
theorem Spaced.lower {ws : List (List Char)} {cs : List Char} (h : Spaced ws cs) :
    Spaced (ws.map lower) (lower cs) := by
  induction h with
  | gap hgap => exact .gap hgap.lower
  | @last gap w hgap hw =>
    unfold Text.lower
    rw [List.map_append]
    exact .last hgap.lower hw.lower
  | @next gap w rest b ws hgap hw hb _ ih =>
    unfold Text.lower
    rw [List.map_append, List.map_append, List.map_cons]
    exact .next hgap.lower hw.lower ((isBlank_toLower b).trans hb) ih

/-- The words of a text in small letters are its words, in small letters. -/
theorem words_lower (cs : List Char) : words (lower cs) = (words cs).map lower :=
  (spaced_iff.2 rfl).lower.words_eq

end Text
end TuneEditor
