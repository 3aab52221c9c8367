import ProbeRecorder.Number.Binary

/-!
# `ProbeRecorder.Number.Shortest` — the fewest decimal digits that read back

A finite binary value is written with the fewest significant digits that still round to it, and among
those with the digits nearest to it. For each digit count the two neighbours of the value on the decimal
grid are tested against the interval of reals that round to the value, in exact arithmetic. Where both are
equally near, the format that is written decides.

## Contents
- **Decimals.** `Decimal`, a coefficient times a power of ten, and its digits.
- **Interval.** `RoundingInterval`, the reals that round to a pattern.
- **Search.** `Tie`, which says where a value halfway goes; `BinaryFormat.shortest`.
-/

namespace ProbeRecorder.Number

/-- The value `coefficient * 10 ^ exponent`. -/
structure Decimal where
  coefficient : Nat
  exponent : Int
  deriving DecidableEq, Repr

/-- Digits of a natural number, most significant first; zero has the one digit `0`. -/
def decimalDigits (n : Nat) : List Char := Nat.toDigits 10 n

/-- Moves trailing zeros of the coefficient into the exponent, at most `limit` of them. -/
def Decimal.trim (d : Decimal) : Nat → Decimal
  | 0 => d
  | limit + 1 =>
    if d.coefficient ≠ 0 ∧ d.coefficient % 10 = 0 then
      Decimal.trim ⟨d.coefficient / 10, d.exponent + 1⟩ limit
    else d

/-- Position of the leading digit: the value lies between `10 ^ p` and `10 ^ (p + 1)`. -/
def Fraction.leadingPlace (q : Fraction) : Int :=
  if q.den ≤ q.num then ((decimalDigits (q.num / q.den)).length : Int) - 1
  else
    let inverse := (q.den + q.num - 1) / q.num
    Int.negOfNat (decimalDigits (inverse - 1)).length

/-- A power of ten as a fraction. -/
def tenPower : Int → Fraction
  | .ofNat e => ⟨Nat.pow 10 e, 1⟩
  | .negSucc e => ⟨1, Nat.pow 10 (e + 1)⟩

/-- **Where a value goes** that lies halfway between two multiples. -/
inductive Tie where
  | toEven
  | up
  deriving DecidableEq, Repr

/-- A value halfway between the multiples `floor` and `floor + 1` goes to the upper one. -/
def Tie.prefersUpper : Tie → (floor : Nat) → Bool
  | .toEven, floor => floor % 2 == 1
  | .up, _ => true

/-- The reals that round to one value; the ends belong to it when its significand is even. -/
structure RoundingInterval where
  low : Fraction
  value : Fraction
  high : Fraction
  closed : Bool

namespace RoundingInterval

def below (strict : Bool) (a b : Fraction) : Bool :=
  if strict then a.num * b.den < b.num * a.den else a.num * b.den ≤ b.num * a.den

def contains (i : RoundingInterval) (q : Fraction) : Bool :=
  below (!i.closed) i.low q && below (!i.closed) q i.high

/-- Of the two multiples of `10 ^ place` around the value, the nearest one inside the interval. -/
def multipleAt (i : RoundingInterval) (tie : Tie) (place : Int) : Option Decimal :=
  let unit := tenPower place
  let floor := i.value.num * unit.den / (i.value.den * unit.num)
  let multiple (c : Nat) : Fraction := ⟨c * unit.num, unit.den⟩
  let lower := i.contains (multiple floor)
  let upper := i.contains (multiple (floor + 1))
  let twiceRest := 2 * (i.value.num * unit.den % (i.value.den * unit.num))
  let half := i.value.den * unit.num
  let preferUpper := half < twiceRest || (twiceRest == half && tie.prefersUpper floor)
  if upper && (preferUpper || !lower) then some ⟨floor + 1, place⟩
  else if lower then some ⟨floor, place⟩
  else none

end RoundingInterval

namespace BinaryFormat

/-- The interval of reals that round to a positive finite pattern. Below a power of two the spacing is
    half of that above it. -/
def interval (fmt : BinaryFormat) (bits : Nat) : RoundingInterval :=
  let d := fmt.magnitude bits
  let narrowBelow := fmt.fractionField bits == 0 && 1 < fmt.exponentField bits
  let quarter (s : Nat) : Fraction := (Dyadic.mk s (d.exponent - 2)).toFraction
  { low := quarter (4 * d.significand - (if narrowBelow then 1 else 2))
    value := quarter (4 * d.significand)
    high := quarter (4 * d.significand + 2)
    closed := d.significand % 2 == 0 }

/-- Seventeen digits tell any two double-precision values apart. -/
def maxDigits : Nat := 17

/-- **Shortest decimal** of the magnitude of a finite pattern. -/
def shortest (fmt : BinaryFormat) (tie : Tie) (bits : Nat) : Decimal :=
  if fmt.isZero bits then ⟨0, 0⟩
  else
    let i := fmt.interval bits
    let lead := i.value.leadingPlace
    let found := (List.range maxDigits).findSome? fun (n : Nat) => i.multipleAt tie (lead - n)
    (found.getD ⟨0, 0⟩).trim maxDigits

end BinaryFormat
end ProbeRecorder.Number
