/-!
# `ProbeRecorder.Number.Binary` — binary floating-point numbers as bit patterns

A floating-point value is kept as its bit pattern; what the pattern denotes is computed here in exact
natural-number arithmetic, so every function below can be evaluated and reasoned about.

## Contents
- **Formats.** `BinaryFormat` with `binary64` and `binary32`; the fields of a pattern.
- **Denotation.** `BinaryFormat.magnitude`, a significand times a power of two.
- **Rounding.** `BinaryFormat.nearest`, the pattern nearest to a fraction, ties to the even significand.
- **Arithmetic.** Products, quotients and conversions, each one rounding of the exact result.
-/

namespace ProbeRecorder.Number

/-- Widths of the two magnitude fields of a binary interchange format. -/
structure BinaryFormat where
  fractionBits : Nat
  exponentBits : Nat
  deriving DecidableEq, Repr

/-- **Double precision.** -/
def binary64 : BinaryFormat := ⟨52, 11⟩

/-- **Single precision.** -/
def binary32 : BinaryFormat := ⟨23, 8⟩

/-- A non-negative fraction; a zero denominator never arises from the functions here. -/
structure Fraction where
  num : Nat
  den : Nat
  deriving DecidableEq, Repr

/-- The value `significand * 2 ^ exponent`. -/
structure Dyadic where
  significand : Nat
  exponent : Int
  deriving DecidableEq, Repr

/-- The same value over a denominator that is a power of two. -/
def Dyadic.toFraction (d : Dyadic) : Fraction :=
  match d.exponent with
  | .ofNat e => ⟨d.significand * Nat.pow 2 e, 1⟩
  | .negSucc e => ⟨d.significand, Nat.pow 2 (e + 1)⟩

namespace BinaryFormat

/-! ## Fields of a pattern -/

/-- Weight of the sign bit. -/
def signWeight (fmt : BinaryFormat) : Nat := Nat.pow 2 (fmt.fractionBits + fmt.exponentBits)

def isNegative (fmt : BinaryFormat) (bits : Nat) : Bool := fmt.signWeight ≤ bits

/-- The pattern with its sign cleared. -/
def absolute (fmt : BinaryFormat) (bits : Nat) : Nat := bits % fmt.signWeight

def exponentField (fmt : BinaryFormat) (bits : Nat) : Nat :=
  fmt.absolute bits / Nat.pow 2 fmt.fractionBits

def fractionField (fmt : BinaryFormat) (bits : Nat) : Nat := bits % Nat.pow 2 fmt.fractionBits

/-- The all-ones exponent field, shared by infinities and NaNs. -/
def specialField (fmt : BinaryFormat) : Nat := Nat.pow 2 fmt.exponentBits - 1

/-- Pattern of positive infinity. -/
def infinity (fmt : BinaryFormat) : Nat := fmt.specialField * Nat.pow 2 fmt.fractionBits

/-- Pattern of the NaN that arithmetic produces. -/
def quietNaN (fmt : BinaryFormat) : Nat := fmt.infinity + Nat.pow 2 (fmt.fractionBits - 1)

def isFinite (fmt : BinaryFormat) (bits : Nat) : Bool := fmt.exponentField bits != fmt.specialField

def isNaN (fmt : BinaryFormat) (bits : Nat) : Bool := fmt.infinity < fmt.absolute bits

/-- Both zeros count. -/
def isZero (fmt : BinaryFormat) (bits : Nat) : Bool := fmt.absolute bits == 0

/-! ## Denotation -/

/-- Exponent of the last place of the smallest positive value. -/
def minExponent (fmt : BinaryFormat) : Int :=
  2 - (Nat.pow 2 (fmt.exponentBits - 1) : Nat) - (fmt.fractionBits : Nat)

/-- What a finite pattern denotes, its sign aside. -/
def magnitude (fmt : BinaryFormat) (bits : Nat) : Dyadic :=
  match fmt.exponentField bits with
  | 0 => ⟨fmt.fractionField bits, fmt.minExponent⟩
  | e + 1 => ⟨Nat.pow 2 fmt.fractionBits + fmt.fractionField bits, fmt.minExponent + e⟩

/-- Puts the sign bit onto a non-negative pattern. -/
def withSign (fmt : BinaryFormat) (negative : Bool) (bits : Nat) : Nat :=
  if negative then fmt.signWeight + bits else bits

/-! ## Rounding -/

/-- The natural number nearest to a fraction, a half going to the even neighbour. -/
def roundHalfEven (q : Fraction) : Nat :=
  let floor := q.num / q.den
  let twice := 2 * (q.num % q.den)
  if twice < q.den then floor
  else if twice = q.den then floor + floor % 2
  else floor + 1

/-- `q` divided by `2 ^ e`. -/
def scaleDown (q : Fraction) : Int → Fraction
  | .ofNat e => ⟨q.num, q.den * Nat.pow 2 e⟩
  | .negSucc e => ⟨q.num * Nat.pow 2 (e + 1), q.den⟩

/-- Exponent of the last place kept when `q` is rounded to the precision of `fmt`. -/
def placeExponent (fmt : BinaryFormat) (q : Fraction) : Int :=
  let guess : Int := (q.num.log2 : Int) - q.den.log2 - fmt.fractionBits
  let scaled := scaleDown q guess
  let exact := if scaled.num < scaled.den * Nat.pow 2 fmt.fractionBits then guess - 1 else guess
  max exact fmt.minExponent

/-- **Nearest pattern.** The non-negative pattern whose value is nearest to `q`, ties to the even
    significand; too large a value gives infinity. A carry out of the significand moves into the
    exponent field by itself, since the two fields are adjacent. -/
def nearest (fmt : BinaryFormat) (q : Fraction) : Nat :=
  if q.num = 0 then 0
  else
    let place := fmt.placeExponent q
    let significand := roundHalfEven (scaleDown q place)
    let bits := (place - fmt.minExponent).toNat * Nat.pow 2 fmt.fractionBits + significand
    if bits < fmt.infinity then bits else fmt.infinity

/-- The pattern nearest to an integer. -/
def ofInt (fmt : BinaryFormat) (n : Int) : Nat :=
  fmt.withSign (n < 0) (fmt.nearest ⟨n.natAbs, 1⟩)

/-! ## Arithmetic on non-negative finite patterns -/

/-- The rounded product. -/
def mul (fmt : BinaryFormat) (a b : Nat) : Nat :=
  let x := (fmt.magnitude a).toFraction
  let y := (fmt.magnitude b).toFraction
  fmt.nearest ⟨x.num * y.num, x.den * y.den⟩

/-- The rounded quotient; the divisor is not zero. -/
def div (fmt : BinaryFormat) (a b : Nat) : Nat :=
  let x := (fmt.magnitude a).toFraction
  let y := (fmt.magnitude b).toFraction
  fmt.nearest ⟨x.num * y.den, x.den * y.num⟩

/-! ## Conversions -/

/-- The nearest pattern of another format. A NaN keeps its sign and the leading bits of its fraction,
    with the quiet bit set. -/
def convert (source target : BinaryFormat) (bits : Nat) : Nat :=
  let negative := source.isNegative bits
  let magnitude :=
    if source.isFinite bits then target.nearest (source.magnitude bits).toFraction
    else if source.isNaN bits then
      let fraction := source.fractionField bits
      let moved :=
        if source.fractionBits ≤ target.fractionBits then
          fraction * Nat.pow 2 (target.fractionBits - source.fractionBits)
        else fraction / Nat.pow 2 (source.fractionBits - target.fractionBits)
      target.infinity + (moved ||| Nat.pow 2 (target.fractionBits - 1))
    else target.infinity
  target.withSign negative magnitude

/-- The integer nearest to a finite value, halves away from zero. -/
def roundToInt (fmt : BinaryFormat) (bits : Nat) : Int :=
  let q := (fmt.magnitude bits).toFraction
  let rounded : Nat := (2 * q.num + q.den) / (2 * q.den)
  if fmt.isNegative bits then -(rounded : Int) else rounded

end BinaryFormat

/-- Single precision widened to double precision; exact. -/
def widen (bits : UInt32) : UInt64 := (binary32.convert binary64 bits.toNat).toUInt64

/-- Double precision rounded to single precision. -/
def narrow (bits : UInt64) : UInt32 := (binary64.convert binary32 bits.toNat).toUInt32

end ProbeRecorder.Number
