/-
# Which texts are whole numbers

A whole number is written in digits, perhaps behind a sign, and zeros in front do not count
(`Numeral`).  A number is read digit by digit, and reading stops where what was read so
far leaves the range; since more digits never make a number smaller, what is read to the
end are the numerals of the range (`readInteger_eq_ok_iff`).  The decimal form of a number
is one of them (`numeral_ofInt`).
-/

import TuneEditor.Proofs.Text.Words
import TuneEditor.Text.Integer

namespace TuneEditor
namespace Text

/-- Digits that mean a number. -/
def Decimal (ds : List Char) (n : Nat) : Prop :=
  ds ≠ [] ∧ (∀ c ∈ ds, c.isDigit = true) ∧ Nat.ofDigitChars 10 ds 0 = n

/-- The ways to write a whole number. -/
inductive Numeral : List Char → Int → Prop
  | bare {ds : List Char} {n : Nat} : Decimal ds n → Numeral ds n
  | plus {ds : List Char} {n : Nat} : Decimal ds n → Numeral ('+' :: ds) n
  | minus {ds : List Char} {n : Nat} : Decimal ds n → Numeral ('-' :: ds) (-n)

/-! ### Digits -/

/-- An ASCII digit has a value. -/
theorem digit?_of_isDigit {c : Char} (hc : c.isDigit = true) :
    digit? c = some (c.toNat - '0'.toNat) :=
  if_pos hc

/-- No other character has one. -/
theorem digit?_of_not_isDigit {c : Char} (hc : ¬ c.isDigit = true) : digit? c = none :=
  if_neg hc

/-- More digits never make a number smaller. -/
theorem le_ofDigitChars (ds : List Char) (value : Nat) : value ≤ Nat.ofDigitChars 10 ds value := by
  induction ds generalizing value with
  | nil => exact Nat.le_refl value
  | cons c ds ih =>
    rw [Nat.ofDigitChars_cons]
    exact Nat.le_trans (by omega) (ih _)

/-- **Digits are read to the end just if the number that they mean is in the range.** -/
theorem readDigits_eq_ok_iff {most value n : Nat} {excess : IntegerError} {ds : List Char}
    (hvalue : value ≤ most) :
    readDigits most excess value ds = .ok n ↔
      (∀ c ∈ ds, c.isDigit = true) ∧ Nat.ofDigitChars 10 ds value = n ∧ n ≤ most := by
  induction ds generalizing value with
  | nil =>
    simp only [readDigits, Except.ok.injEq, List.not_mem_nil, false_implies, implies_true,
      Nat.ofDigitChars_nil, true_and]
    constructor
    · rintro rfl
      exact ⟨rfl, hvalue⟩
    · exact fun h => h.1
  | cons c ds ih =>
    rw [List.forall_mem_cons, Nat.ofDigitChars_cons]
    by_cases hc : c.isDigit = true
    · simp only [readDigits, digit?_of_isDigit hc, hc, true_and]
      by_cases hle : 10 * value + (c.toNat - '0'.toNat) ≤ most
      · rw [if_pos hle, ih hle]
      · rw [if_neg hle]
        have hgrows := le_ofDigitChars ds (10 * value + (c.toNat - '0'.toNat))
        simp only [reduceCtorEq, false_iff]
        rintro ⟨-, rfl, hmost⟩
        exact hle (Nat.le_trans hgrows hmost)
    · simp only [readDigits, digit?_of_not_isDigit hc, hc, reduceCtorEq, false_and]

/-- The same for digits of which there has to be at least one. -/
theorem readDigits_eq_ok_iff_decimal {most n : Nat} {excess : IntegerError} {ds : List Char}
    (hds : ds ≠ []) : readDigits most excess 0 ds = .ok n ↔ Decimal ds n ∧ n ≤ most := by
  rw [readDigits_eq_ok_iff (Nat.zero_le most)]
  simp only [Decimal, hds, ne_eq, not_false_eq_true, true_and, and_assoc]

/-! ### Numerals -/

/-- The decimal form of a number begins with a digit. -/
theorem Decimal.exists_cons {ds : List Char} {n : Nat} (h : Decimal ds n) :
    ∃ c rest, ds = c :: rest ∧ c.isDigit = true := by
  obtain ⟨c, rest, rfl⟩ := List.exists_cons_of_ne_nil h.1
  exact ⟨c, rest, rfl, h.2.1 c List.mem_cons_self⟩

/-- A text that begins with a digit has no sign. -/
theorem readInteger_of_decimal {below most n : Nat} {ds : List Char} (h : Decimal ds n) :
    readInteger below most ds = (readDigits most .tooLarge 0 ds).map Int.ofNat := by
  obtain ⟨c, rest, rfl, hc⟩ := h.exists_cons
  have hplus : c ≠ '+' := by
    rintro rfl
    exact absurd hc (by decide)
  have hminus : c ≠ '-' := by
    rintro rfl
    exact absurd hc (by decide)
  unfold readInteger
  split
  all_goals simp_all

/-- A plus sign in front of a text changes nothing, unless there is nothing behind it. -/
theorem readInteger_plus {below most : Nat} {ds : List Char} (hds : ds ≠ []) :
    readInteger below most ('+' :: ds) = (readDigits most .tooLarge 0 ds).map Int.ofNat := by
  obtain ⟨c, rest, rfl⟩ := List.exists_cons_of_ne_nil hds
  rfl

/-- Behind a minus sign the digits are read for the other end of the range. -/
theorem readInteger_minus {below most : Nat} {ds : List Char} (hds : ds ≠ []) (hbelow : 0 < below) :
    readInteger below most ('-' :: ds) =
      (readDigits below .tooSmall 0 ds).map fun n => -(n : Int) := by
  obtain ⟨c, rest, rfl⟩ := List.exists_cons_of_ne_nil hds
  exact if_neg (Nat.ne_of_gt hbelow)

/-- Where digits make a number, they are the decimal form of a number in the range. -/
theorem exists_decimal_of_map {most : Nat} {excess : IntegerError} {ds : List Char}
    {f : Nat → Int} {n : Int} (hds : ds ≠ [])
    (h : (readDigits most excess 0 ds).map f = .ok n) : ∃ m, Decimal ds m ∧ m ≤ most ∧ f m = n := by
  cases hread : readDigits most excess 0 ds with
  | error e =>
    rw [hread] at h
    cases h
  | ok m =>
    rw [hread] at h
    obtain ⟨hdecimal, hle⟩ := (readDigits_eq_ok_iff_decimal hds).1 hread
    exact ⟨m, hdecimal, hle, Except.ok.inj h⟩

/-- What is read is a numeral of the range. -/
theorem numeral_of_readInteger {below most : Nat} {cs : List Char} {n : Int} (hbelow : 0 < below)
    (h : readInteger below most cs = .ok n) : Numeral cs n ∧ -(below : Int) ≤ n ∧ n ≤ most := by
  unfold readInteger at h
  split at h
  · cases h
  · cases h
  · cases h
  · next ds hne =>
    obtain ⟨m, hds, hle, rfl : (m : Int) = n⟩ := exists_decimal_of_map hne h
    exact ⟨.plus hds, by omega, by omega⟩
  · next ds hne =>
    have hminus : (readDigits below .tooSmall 0 ds).map (fun m : Nat => -(m : Int)) = .ok n := by
      rw [if_neg (Nat.ne_of_gt hbelow)] at h
      rw [← h]
      cases readDigits below .tooSmall 0 ds with
      | error e => rfl
      | ok m => rfl
    obtain ⟨m, hds, hle, rfl⟩ := exists_decimal_of_map hne hminus
    exact ⟨.minus hds, by omega, by omega⟩
  · next hne _ _ _ _ =>
    obtain ⟨m, hds, hle, rfl : (m : Int) = n⟩ := exists_decimal_of_map hne h
    exact ⟨.bare hds, by omega, by omega⟩

/-- **The numerals of the range are read, and nothing else is.** -/
theorem readInteger_eq_ok_iff {below most : Nat} {cs : List Char} {n : Int} (hbelow : 0 < below) :
    readInteger below most cs = .ok n ↔ Numeral cs n ∧ -(below : Int) ≤ n ∧ n ≤ most := by
  refine ⟨numeral_of_readInteger hbelow, ?_⟩
  rintro ⟨hnumeral, hleast, hmost⟩
  cases hnumeral with
  | @bare ds m hds =>
    have hread : readDigits most .tooLarge 0 cs = .ok m :=
      (readDigits_eq_ok_iff_decimal hds.1).2 ⟨hds, by omega⟩
    rw [readInteger_of_decimal hds, hread]
    rfl
  | @plus ds m hds =>
    have hread : readDigits most .tooLarge 0 ds = .ok m :=
      (readDigits_eq_ok_iff_decimal hds.1).2 ⟨hds, by omega⟩
    rw [readInteger_plus hds.1, hread]
    rfl
  | @minus ds m hds =>
    have hread : readDigits below .tooSmall 0 ds = .ok m :=
      (readDigits_eq_ok_iff_decimal hds.1).2 ⟨hds, by omega⟩
    rw [readInteger_minus hds.1 hbelow, hread]
    rfl

/-- An offset is a numeral of 64 bits, one of them for the sign. -/
theorem readOffset_eq_ok_iff {cs : List Char} {n : Int} :
    readOffset cs = .ok n ↔ Numeral cs n ∧ -9223372036854775808 ≤ n ∧ n ≤ 9223372036854775807 :=
  readInteger_eq_ok_iff (by decide)

/-! ### What a numeral looks like -/

/-- The digits that a number is written with are its decimal form. -/
theorem Decimal.ofNat (n : Nat) : Decimal (ofNat n) n :=
  ⟨Nat.toDigits_ne_nil, fun _ hc => Nat.isDigit_of_mem_toDigits (by decide) (by decide) hc,
    Nat.ofDigitChars_toDigits (by decide) (by decide)⟩

/-- **The decimal form of a number is a numeral that means it.** -/
theorem numeral_ofInt (n : Int) : Numeral (ofInt n) n := by
  unfold ofInt
  split
  · next hneg =>
    have hminus := Numeral.minus (Decimal.ofNat n.natAbs)
    rwa [show -(n.natAbs : Int) = n by omega] at hminus
  · next hnonneg =>
    have hbare := Numeral.bare (Decimal.ofNat n.natAbs)
    rwa [show (n.natAbs : Int) = n by omega] at hbare

/-- Signs and digits are all that a numeral is made of. -/
theorem Numeral.mem {cs : List Char} {n : Int} (h : Numeral cs n) {c : Char} (hc : c ∈ cs) :
    c = '+' ∨ c = '-' ∨ c.isDigit = true := by
  cases h with
  | bare hds => exact .inr (.inr (hds.2.1 c hc))
  | plus hds =>
    rcases List.mem_cons.1 hc with rfl | hc
    · exact .inl rfl
    · exact .inr (.inr (hds.2.1 c hc))
  | minus hds =>
    rcases List.mem_cons.1 hc with rfl | hc
    · exact .inr (.inl rfl)
    · exact .inr (.inr (hds.2.1 c hc))

/-- A digit is no blank. -/
theorem isBlank_of_isDigit {c : Char} (hc : c.isDigit = true) : isBlank c = false := by
  have hbounds := Char.isDigit_iff_toNat.1 hc
  simp only [Char.reduceToNat] at hbounds
  simp [isBlank]
  omega

/-- A numeral is a word, so trimming a text that holds one leaves it. -/
theorem Numeral.isWord {cs : List Char} {n : Int} (h : Numeral cs n) : IsWord cs := by
  constructor
  · cases h with
    | bare hds => exact hds.1
    | plus hds => exact List.cons_ne_nil _ _
    | minus hds => exact List.cons_ne_nil _ _
  · intro c hc
    rcases h.mem hc with rfl | rfl | hdigit
    · rfl
    · rfl
    · exact isBlank_of_isDigit hdigit

/-! ### Numbers between blanks -/

/-- A text that holds a number, and perhaps blanks around it. -/
def HoldsNumber (cs : List Char) (n : Int) : Prop :=
  ∃ before numeral behind, IsGap before ∧ IsGap behind ∧ cs = before ++ (numeral ++ behind) ∧
    Numeral numeral n

/-- A text holds a number just if trimming leaves a numeral that means it. -/
theorem holdsNumber_iff {cs : List Char} {n : Int} : HoldsNumber cs n ↔ Numeral (trim cs) n := by
  constructor
  · rintro ⟨before, numeral, behind, hbefore, hbehind, hcs, hnumeral⟩
    rwa [(trim_eq_iff hnumeral.isWord).2 ⟨before, behind, hbefore, hbehind, hcs⟩]
  · intro h
    obtain ⟨before, behind, hbefore, hbehind, hcs⟩ := exists_gaps_trim cs
    exact ⟨before, trim cs, behind, hbefore, hbehind, hcs, h⟩

end Text
end TuneEditor
