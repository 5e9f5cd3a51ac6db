/-
# Which texts are ranges

A range is two numbers with a colon between them.  The first colon counts, and there is
none in a number, so each side of it holds a number and perhaps blanks around it
(`IsRange`).  Both numbers have 64 bits, one of them for the sign.

All such texts are read, and every other text is refused; and two numbers in decimal, with
a colon between them and any blanks around them, are read back (`readRange_accepts`).
-/

import TuneEditor.CommandLine.Arguments
import TuneEditor.Proofs.Text.Integer

namespace TuneEditor
namespace CommandLine

/-- A whole number of 64 bits, one of them for the sign. -/
def IsOffset (n : Int) : Prop :=
  -9223372036854775808 ≤ n ∧ n ≤ 9223372036854775807

/-- The texts that mean a range. -/
def IsRange (cs : List Char) (a b : Int) : Prop :=
  ∃ start stop, cs = start ++ ':' :: stop ∧ ':' ∉ start ∧
    (Text.HoldsNumber start a ∧ IsOffset a) ∧ Text.HoldsNumber stop b ∧ IsOffset b

/-- A bound is read with blanks around it, just if it is written as a number that a host may
send. -/
theorem readOffset_trim_eq_ok_iff {cs : List Char} {n : Int} :
    Text.readOffset (Text.trim cs) = .ok n ↔ Text.HoldsNumber cs n ∧ IsOffset n := by
  rw [Text.readOffset_eq_ok_iff, Text.holdsNumber_iff]
  rfl

/-- Without a colon there are no two bounds to read. -/
theorem readRange_of_notMem {cs : List Char} (h : ':' ∉ cs) :
    readRange cs = .error (.noColon cs) := by
  have hnone : cs.dropWhile (· != ':') = [] :=
    List.dropWhile_eq_nil_iff.2 fun c hc => bne_iff_ne.2 (ne_of_mem_of_not_mem hc h)
  unfold readRange
  rw [hnone]

/-- The texts on both sides of the first colon are read, the one in front of it first. -/
theorem readRange_append {start : List Char} (h : ':' ∉ start) (stop : List Char) :
    readRange (start ++ ':' :: stop) =
      match Text.readOffset (Text.trim start) with
      | .error e => .error (.badStart e)
      | .ok a =>
        match Text.readOffset (Text.trim stop) with
        | .error e => .error (.badStop e)
        | .ok b => .ok ⟨a, b⟩ := by
  have hstart : ∀ c ∈ start, (c != ':') = true :=
    fun c hc => bne_iff_ne.2 (ne_of_mem_of_not_mem hc h)
  have hdrop : (start ++ ':' :: stop).dropWhile (· != ':') = ':' :: stop :=
    List.dropWhile_append_of_pos hstart
  have htake : (start ++ ':' :: stop).takeWhile (· != ':') = start := by
    rw [List.takeWhile_append_of_pos hstart, List.takeWhile_cons_of_neg (by decide),
      List.append_nil]
  unfold readRange
  rewrite [hdrop, htake]
  rfl

/-- **The texts that mean a range are read, and nothing else is.** -/
theorem readRange_eq_ok_iff {cs : List Char} {a b : Int} :
    readRange cs = .ok ⟨a, b⟩ ↔ IsRange cs a b := by
  constructor
  · intro h
    by_cases hcolon : ':' ∈ cs
    · obtain ⟨start, stop, rfl, hstart⟩ := List.eq_append_cons_of_mem hcolon
      rw [readRange_append hstart] at h
      split at h
      · cases h
      · next a' ha =>
        split at h
        · cases h
        · next b' hb =>
          cases h
          exact ⟨start, stop, rfl, hstart, readOffset_trim_eq_ok_iff.1 ha,
            readOffset_trim_eq_ok_iff.1 hb⟩
    · rw [readRange_of_notMem hcolon] at h
      cases h
  · rintro ⟨start, stop, rfl, hstart, ha, hb⟩
    rw [readRange_append hstart, readOffset_trim_eq_ok_iff.2 ha]
    dsimp only
    rw [readOffset_trim_eq_ok_iff.2 hb]

/-- There is no colon in a number, nor in the blanks around it. -/
theorem notMem_of_holdsNumber {cs : List Char} {n : Int} (h : Text.HoldsNumber cs n) :
    ':' ∉ cs := by
  obtain ⟨before, numeral, behind, hbefore, hbehind, rfl, hnumeral⟩ := h
  intro hmem
  rcases List.mem_append.1 hmem with hmem | hmem
  · exact absurd (hbefore _ hmem) (by decide)
  rcases List.mem_append.1 hmem with hmem | hmem
  · exact absurd (hnumeral.mem hmem) (by decide)
  · exact absurd (hbehind _ hmem) (by decide)

/-- **A range is read just if it is two numbers with a colon between them**: every text of that
form means its two numbers, and every other text is refused.  The decimal forms of two numbers, with
any blanks around them, are read back. -/
theorem readRange_accepts :
    (∀ cs a b, readRange cs = .ok ⟨a, b⟩ ↔ IsRange cs a b) ∧
    (∀ cs, (∃ e, readRange cs = .error e) ↔ ∀ a b, ¬ IsRange cs a b) ∧
    ∀ a b, IsOffset a → IsOffset b → ∀ before behind before' behind',
      Text.IsGap before → Text.IsGap behind → Text.IsGap before' → Text.IsGap behind' →
        readRange ((before ++ (Text.ofInt a ++ behind)) ++
          ':' :: (before' ++ (Text.ofInt b ++ behind'))) = .ok ⟨a, b⟩ := by
  refine ⟨fun cs a b => readRange_eq_ok_iff, fun cs => ?_, ?_⟩
  · constructor
    · rintro ⟨e, he⟩ a b hrange
      rw [readRange_eq_ok_iff.2 hrange] at he
      cases he
    · intro hnone
      cases hread : readRange cs with
      | error e => exact ⟨e, rfl⟩
      | ok r => exact absurd (readRange_eq_ok_iff.1 hread) (hnone r.start r.stop)
  · intro a b ha hb before behind before' behind' hbefore hbehind hbefore' hbehind'
    have hstart : Text.HoldsNumber (before ++ (Text.ofInt a ++ behind)) a :=
      ⟨before, Text.ofInt a, behind, hbefore, hbehind, rfl, Text.numeral_ofInt a⟩
    have hstop : Text.HoldsNumber (before' ++ (Text.ofInt b ++ behind')) b :=
      ⟨before', Text.ofInt b, behind', hbefore', hbehind', rfl, Text.numeral_ofInt b⟩
    exact readRange_eq_ok_iff.2
      ⟨_, _, rfl, notMem_of_holdsNumber hstart, ⟨hstart, ha⟩, hstop, hb⟩

/-- The least and the greatest number of 64 bits, with blanks of several kinds around them. -/
theorem readRange_accepts_of_bounds :
    readRange "\t-9223372036854775808 :\u3000\n9223372036854775807\u2028".toList =
      .ok ⟨-9223372036854775808, 9223372036854775807⟩ := by
  have hread := readRange_accepts.2.2 (-9223372036854775808) 9223372036854775807
    ⟨by decide, by decide⟩ ⟨by decide, by decide⟩ ['\t'] [' '] ['\u3000', '\n'] ['\u2028']
    (by decide) (by decide) (by decide) (by decide)
  have htext : "\t-9223372036854775808 :\u3000\n9223372036854775807\u2028".toList =
      (['\t'] ++ (Text.ofInt (-9223372036854775808) ++ [' '])) ++
        ':' :: (['\u3000', '\n'] ++ (Text.ofInt 9223372036854775807 ++ ['\u2028'])) := by
    decide
  rw [htext, hread]

end CommandLine
end TuneEditor
