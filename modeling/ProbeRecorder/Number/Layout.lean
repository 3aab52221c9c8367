import ProbeRecorder.Number.Shortest

/-!
# `ProbeRecorder.Number.Layout` — how decimal digits are laid out as text

The digits of a number are fixed by `ProbeRecorder.Number.Shortest`; the formats that write it differ only in the
choices recorded in a `Layout`.

## Contents
- **Choices.** `Layout` and the layouts in use: `jsonLayout`, `jsonSingleLayout`, `debugLayout`,
  `plainLayout`.
- **Writing.** `Layout.write` for a decimal, `Layout.writeBits` for a pattern of a binary format.
-/

namespace ProbeRecorder.Number

/-- The choices a number format makes. -/
structure Layout where
  /-- Leading places from which the number is written positionally. -/
  positionalFrom : Option Int
  /-- First leading place that is written with an exponent again. -/
  positionalBelow : Option Int
  /-- Whether an integral positional number ends in a point and a zero. -/
  keepsPoint : Bool
  /-- Whether a positive exponent carries a sign. -/
  signsExponent : Bool
  /-- Which digits a value has that lies halfway between two candidates. -/
  tie : Tie
  notANumber : List Char
  infinite : List Char

/-- **JSON numbers.** Positional from `0.00001` up to, and not with, `10 ^ 16`; otherwise a signed
    exponent. Ties go to the even digit. JSON has no text for the values that are not finite. -/
def jsonLayout : Layout where
  positionalFrom := some (-5)
  positionalBelow := some 16
  keepsPoint := true
  signsExponent := true
  tie := .toEven
  notANumber := ['n', 'u', 'l', 'l']
  infinite := ['n', 'u', 'l', 'l']

/-- **JSON numbers in single precision.** They have fewer digits, and so fewer places are filled up with
    zeros: positional from `0.000001` up to, and not with, `10 ^ 13`. -/
def jsonSingleLayout : Layout :=
  { jsonLayout with positionalFrom := some (-6), positionalBelow := some 13 }

/-- **Diagnostic text.** Positional from `0.0001` up to, and not with, `10 ^ 16`. Ties go up. -/
def debugLayout : Layout where
  positionalFrom := some (-4)
  positionalBelow := some 16
  keepsPoint := true
  signsExponent := false
  tie := .up
  notANumber := ['N', 'a', 'N']
  infinite := ['i', 'n', 'f']

/-- **Plain text.** Always positional, without a point when integral. Ties go up. -/
def plainLayout : Layout where
  positionalFrom := none
  positionalBelow := none
  keepsPoint := false
  signsExponent := false
  tie := .up
  notANumber := ['N', 'a', 'N']
  infinite := ['i', 'n', 'f']

namespace Layout

/-- Whether a number whose leading digit has this place is written without an exponent. -/
def isPositional (l : Layout) (place : Int) : Bool :=
  (match l.positionalFrom with | some p => p ≤ place | none => true)
    && (match l.positionalBelow with | some p => place < p | none => true)

/-- Digits with a point after the first `whole` of them, padded with zeros where needed. -/
def positional (l : Layout) (digits : List Char) (place : Int) : List Char :=
  let ending := if l.keepsPoint then ['.', '0'] else []
  match place with
  | .negSucc n => '0' :: '.' :: (List.replicate n '0' ++ digits)
  | .ofNat n =>
    if digits.length ≤ n + 1 then digits ++ List.replicate (n + 1 - digits.length) '0' ++ ending
    else digits.take (n + 1) ++ '.' :: digits.drop (n + 1)

/-- One digit, the rest after a point, and an exponent. -/
def scientific (l : Layout) (digits : List Char) (place : Int) : List Char :=
  let mantissa := match digits with
    | d :: e :: rest => d :: '.' :: e :: rest
    | short => short
  let sign := if place < 0 then ['-'] else if l.signsExponent then ['+'] else []
  mantissa ++ 'e' :: (sign ++ decimalDigits place.natAbs)

/-- Text of a non-negative decimal. -/
def write (l : Layout) (d : Decimal) : List Char :=
  let digits := decimalDigits d.coefficient
  let place := d.exponent + digits.length - 1
  if d.coefficient = 0 then l.positional digits 0
  else if l.isPositional place then l.positional digits place
  else l.scientific digits place

/-- Text of a binary pattern. A NaN shows no sign; where only finite numbers have a text, neither does
    an infinity. -/
def writeBits (l : Layout) (fmt : BinaryFormat) (bits : Nat) : List Char :=
  let sign := if fmt.isNegative bits then ['-'] else []
  if fmt.isNaN bits then l.notANumber
  else if fmt.isFinite bits then sign ++ l.write (fmt.shortest l.tie bits)
  else if l.infinite = l.notANumber then l.infinite
  else sign ++ l.infinite

end Layout
end ProbeRecorder.Number
