import ProbeRecorder.Number.Numeral
import ProbeRecorder.Number.Range

/-!
# `ProbeRecorder.Number.Plain` — numbers as people type them

## Contents
- **Whole numbers.** `plainNat?`, `plainInt?`: a sign and digits, nothing else.
- **Double precision.** `plainDouble?`: a fraction and an exponent may follow, either side of the point
  may be empty, and infinity and NaN have names.
-/

namespace ProbeRecorder.Number

/-- The values of a non-empty sequence of digits. -/
def digits? (s : List Char) : Option (List Nat) :=
  if s.isEmpty || !s.all Char.isDigit then none else some (s.map fun c => c.toNat - '0'.toNat)

/-- A sign, if there is one, and the rest. -/
def splitSign : List Char → Bool × List Char
  | '-' :: rest => (true, rest)
  | '+' :: rest => (false, rest)
  | s => (false, s)

/-! ## Whole numbers -/

/-- A natural number below `2 ^ 64`; a plus sign may precede it. -/
def plainNat? (s : List Char) : Option Nat := do
  let body := match s with
    | '+' :: rest => rest
    | s => s
  let n := digitsValue (← digits? body)
  if n < UInt64.size then return n else none

/-- An integer of 64 bits. -/
def plainInt? (s : List Char) : Option Int := do
  let (negative, body) := splitSign s
  let n := digitsValue (← digits? body)
  let value : Int := if negative then Int.negOfNat n else n
  if (signed 64).contains value then return value else none

/-! ## Double precision -/

/-- Digits, of which there may be none. -/
def looseDigits? (s : List Char) : Option (List Nat) := if s.isEmpty then some [] else digits? s

/-- The exponent after its mark. -/
def plainExponent? (s : List Char) : Option Int := do
  let (negative, body) := splitSign s
  let n := digitsValue (← digits? body)
  return if negative then Int.negOfNat n else n

/-- The numeral that a text without a sign spells. -/
def plainNumeral? (negative : Bool) (s : List Char) : Option Numeral := do
  let isMark (c : Char) : Bool := c == 'e' || c == 'E'
  let mantissa := s.takeWhile fun c => !isMark c
  let exponent ← match s.dropWhile fun c => !isMark c with
    | [] => some none
    | _ :: rest => (plainExponent? rest).map some
  let whole ← looseDigits? (mantissa.takeWhile (· != '.'))
  let fraction ← looseDigits? ((mantissa.dropWhile (· != '.')).drop 1)
  if whole.isEmpty && fraction.isEmpty then none
  else return ⟨negative, whole, fraction, exponent⟩

/-- Values that are named, not spelled. -/
def namedDoubles : List (String × Nat) :=
  [("inf", binary64.infinity), ("infinity", binary64.infinity), ("nan", binary64.quietNaN)]

/-- **A number in double precision**, by its pattern. -/
def plainDouble? (s : List Char) : Option UInt64 :=
  let (negative, body) := splitSign s
  match namedDoubles.lookup (String.ofList (body.map Char.toLower)) with
  | some bits => some (binary64.withSign negative bits).toUInt64
  | none => (plainNumeral? negative body).map Numeral.nearest

end ProbeRecorder.Number
