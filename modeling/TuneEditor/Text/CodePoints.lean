/-
# Sets of characters given by ranges

A property of characters that has no shorter rule is a list of ranges of code
points, both ends included.
-/

namespace TuneEditor

/-- Ranges of code points, each with its first and its last member. -/
abbrev CodePoints :=
  List (Nat × Nat)

namespace CodePoints

/-- Whether a character lies in one of the ranges. -/
def holds (ranges : CodePoints) (c : Char) : Bool :=
  ranges.any fun r => r.1 ≤ c.toNat && c.toNat ≤ r.2

/-- A character is in a table just if its number is in one of the ranges, bounds included. -/
theorem holds_iff {ranges : CodePoints} {c : Char} :
    ranges.holds c = true ↔ ∃ r ∈ ranges, r.1 ≤ c.toNat ∧ c.toNat ≤ r.2 := by
  simp [holds]

end CodePoints
end TuneEditor
