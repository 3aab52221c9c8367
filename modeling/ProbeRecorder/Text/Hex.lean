import ProbeRecorder.Text.Utf8

/-!
# `ProbeRecorder.Text.Hex` — hexadecimal text

## Contents
- **Digits.** `hexValue?`, `hexNumber?`, `hexDigits`.
- **Bytes.** Two digits for each byte: `hexOfBytes`, `bytesOfHex?`.
-/

namespace ProbeRecorder.Text

/-! ## Digits -/

/-- The value of a digit in either case. -/
def hexValue? (c : Char) : Option Nat :=
  if c.isDigit then some (c.toNat - '0'.toNat)
  else if 'a' ≤ c ∧ c ≤ 'f' then some (c.toNat - 'a'.toNat + 10)
  else if 'A' ≤ c ∧ c ≤ 'F' then some (c.toNat - 'A'.toNat + 10)
  else none

/-- The number that digits spell. -/
def hexNumber? (digits : List Char) : Option Nat :=
  digits.foldlM (fun n c => (hexValue? c).map fun d => 16 * n + d) 0

/-- The lowest digits of a number, as many as asked for, in lower case. -/
def hexDigits : Nat → Nat → List Char
  | 0, _ => []
  | count + 1, n => hexDigits count (n / 16) ++ [Nat.digitChar (n % 16)]

/-! ## Bytes -/

def hexOfBytes (bytes : Bytes) : List Char := bytes.flatMap fun b => hexDigits 2 b.toNat

/-- The bytes that pairs of digits spell; nothing if a digit is missing or is none. -/
def bytesOfHex? : List Char → Option Bytes
  | [] => some []
  | a :: b :: rest => do
    let byte ← hexNumber? [a, b]
    return byte.toUInt8 :: (← bytesOfHex? rest)
  | [_] => none

end ProbeRecorder.Text
