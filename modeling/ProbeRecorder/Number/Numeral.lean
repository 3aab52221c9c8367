import ProbeRecorder.Number.Binary
import ProbeRecorder.Number.Range

/-!
# `ProbeRecorder.Number.Numeral` — decimal numerals as they are written

A numeral is what stands in a text: digits, a fraction and an exponent. Two readings of it as a
double-precision value are in use.

## Contents
- **Numerals.** `Numeral` and the natural number its digits spell.
- **Nearest reading.** `Numeral.nearest`, the value rounded once.
- **Scaled reading.** `Numeral.scaled?`, which collects the leading digits into a 64-bit significand and
  multiplies or divides it by a power of ten, rounding at each of these steps.
-/

namespace ProbeRecorder.Number

/-- A decimal numeral; digits are numbers below ten, most significant first. -/
structure Numeral where
  negative : Bool
  whole : List Nat
  fraction : List Nat
  exponent : Option Int
  deriving DecidableEq, Repr

/-- The natural number a digit sequence spells. -/
def digitsValue (digits : List Nat) : Nat := digits.foldl (fun n d => 10 * n + d) 0

namespace Numeral

/-- Neither a fraction nor an exponent is written. -/
def isIntegral (n : Numeral) : Bool := n.fraction.isEmpty && n.exponent.isNone

def wholeValue (n : Numeral) : Nat := digitsValue n.whole

/-! ## Nearest reading -/

/-- Leading places beyond this are infinite, and those below its negative zero, in double precision. -/
def placeLimit : Int := 400

/-- **Nearest reading.** The double-precision pattern nearest to the numeral, with its sign. -/
def nearest (n : Numeral) : UInt64 :=
  let digits := n.whole ++ n.fraction
  let coefficient := digitsValue digits
  let exponent := n.exponent.getD 0 - n.fraction.length
  let lead := exponent + (digits.dropWhile (· == 0)).length
  let magnitude :=
    if coefficient = 0 || lead < -placeLimit then 0
    else if placeLimit < lead then binary64.infinity
    else match exponent with
      | .ofNat e => binary64.nearest ⟨coefficient * Nat.pow 10 e, 1⟩
      | .negSucc e => binary64.nearest ⟨coefficient, Nat.pow 10 (e + 1)⟩
  (binary64.withSign n.negative magnitude).toUInt64

/-! ## Scaled reading -/

/-- Largest significand collected from the digits. -/
def significandLimit : Nat := UInt64.size - 1

/-- A significand under collection, the decimal exponent it stands at. -/
structure Collected where
  significand : Nat
  exponent : Int

/-- Collects whole digits; from the first that no longer fits, each digit only raises the exponent. -/
def collectWhole : Collected → List Nat → Collected
  | c, [] => c
  | c, d :: rest =>
    if 10 * c.significand + d ≤ significandLimit then
      collectWhole ⟨10 * c.significand + d, c.exponent⟩ rest
    else ⟨c.significand, c.exponent + (rest.length + 1 : Nat)⟩

/-- Collects fraction digits; from the first that no longer fits, they are ignored. -/
def collectFraction : Collected → List Nat → Collected
  | c, [] => c
  | c, d :: rest =>
    if 10 * c.significand + d ≤ significandLimit then
      collectFraction ⟨10 * c.significand + d, c.exponent - 1⟩ rest
    else c

/-- Largest power of ten multiplied or divided by in one step. -/
def powerLimit : Nat := 308

/-- The double-precision power of ten. -/
def power (e : Nat) : Nat := binary64.nearest ⟨Nat.pow 10 e, 1⟩

/-- Divides by `10 ^ e`, in steps of at most `10 ^ 308`. -/
def shrink (value e : Nat) : Nat :=
  if e ≤ powerLimit then binary64.div value (power e)
  else if value = 0 then 0
  else shrink (binary64.div value (power powerLimit)) (e - powerLimit)
  termination_by e
  decreasing_by simp only [powerLimit] at *; omega

/-- **Scaled reading.** The double-precision pattern of the numeral, or nothing when it is too large. -/
def scaled? (n : Numeral) : Option UInt64 :=
  let c := collectFraction (collectWhole ⟨0, 0⟩ n.whole) n.fraction
  let start := binary64.nearest ⟨c.significand, 1⟩
  let magnitude? : Option Nat :=
    match c.exponent + n.exponent.getD 0 with
    | .ofNat e =>
      if start = 0 then some 0
      else if powerLimit < e then none
      else
        let product := binary64.mul start (power e)
        if product = binary64.infinity then none else some product
    | .negSucc e => some (shrink start (e + 1))
  magnitude?.map fun m => (binary64.withSign n.negative m).toUInt64

end Numeral
end ProbeRecorder.Number
