/-!
# `ProbeRecorder.Number.Range` — ranges of machine words

## Contents
- **Ranges.** `Range` with `contains`.
- **Words.** `signed` and `unsigned`, the integers that words of some width stand for.
-/

namespace ProbeRecorder.Number

/-! ## Ranges -/

/-- **Range** of integers, both ends included. -/
structure Range where
  low : Int
  high : Int
  deriving DecidableEq, Repr

def Range.contains (r : Range) (n : Int) : Bool := r.low ≤ n && n ≤ r.high

theorem Range.contains_iff (r : Range) (n : Int) : r.contains n = true ↔ r.low ≤ n ∧ n ≤ r.high := by
  simp [contains]

/-! ## Words -/

/-- Half the number of words of a width. -/
def halfWords (bits : Nat) : Nat := Nat.pow 2 (bits - 1)

/-- **Signed words** of a width. -/
def signed (bits : Nat) : Range := ⟨-(halfWords bits : Int), (halfWords bits : Int) - 1⟩

/-- **Unsigned words** of a width. -/
def unsigned (bits : Nat) : Range := ⟨0, ((Nat.pow 2 bits : Nat) : Int) - 1⟩

end ProbeRecorder.Number
