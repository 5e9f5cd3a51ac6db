/-
# Selections that fit a text

A request of a host is good for a text if its offsets are in order and lie in
it (`SelectionRequest.Fits`).  `checked` answers a good request with the
selection it asks for and any other with the request and the length of the text
(`checked_of_fits`, `checked_of_not_fits`).
-/

import TuneEditor.Selection

namespace TuneEditor

/-- The offsets of a request are in order and lie in a text of some length. -/
def SelectionRequest.Fits (r : SelectionRequest) (length : Nat) : Prop :=
  0 ≤ r.start ∧ r.start ≤ r.stop ∧ r.stop ≤ length

instance (r : SelectionRequest) (length : Nat) : Decidable (r.Fits length) :=
  inferInstanceAs (Decidable (_ ∧ _))

namespace Selection

/-- A request that fits is granted with the offsets that it asks for. -/
theorem checked_of_fits {r : SelectionRequest} {length : Nat} (h : r.Fits length) :
    checked r length = .ok ⟨r.start.toNat, r.stop.toNat⟩ := by
  obtain ⟨h₁, h₂, h₃⟩ := h
  unfold checked
  rw [if_neg (by omega), if_neg (by omega)]

/-- Any other request is refused, and the refusal names the request and the length. -/
theorem checked_of_not_fits {r : SelectionRequest} {length : Nat} (h : ¬ r.Fits length) :
    checked r length = .error ⟨r, length⟩ := by
  unfold SelectionRequest.Fits at h
  unfold checked
  split
  · rfl
  · rw [if_pos (by omega)]

/-- There is no other refusal. -/
theorem eq_of_checked_error {r : SelectionRequest} {length : Nat} {e : InvalidSelection}
    (h : checked r length = .error e) : e = ⟨r, length⟩ := by
  by_cases hf : r.Fits length
  · rw [checked_of_fits hf] at h
    cases h
  · rw [checked_of_not_fits hf] at h
    exact (Except.error.inj h).symm

/-- A selection that was let through is in order and lies in the text. -/
theorem bounds_of_checked_ok {r : SelectionRequest} {length : Nat} {s : Selection}
    (h : checked r length = .ok s) : s.start ≤ s.stop ∧ s.stop ≤ length := by
  by_cases hf : r.Fits length
  · rw [checked_of_fits hf] at h
    obtain rfl := Except.ok.inj h
    obtain ⟨h₁, h₂, h₃⟩ := hf
    constructor <;> dsimp only <;> omega
  · rw [checked_of_not_fits hf] at h
    cases h

end Selection
end TuneEditor
