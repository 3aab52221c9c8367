import ProbeRecorder.Json.Token
import ProbeRecorder.Settings.Setting
import ProbeRecorder.Toml.Reader

/-!
# `ProbeRecorder.Toml.Scalar` — numbers, truth values and dates

## Contents
- **Digits.** `groupedDigits?`, digits with single underscores between them.
- **Numbers.** `integer?`, `float?`.
- **Dates and times.** `dateTime?`, written back in one canonical form; `dateSetting`.
- **Reading.** `readScalar`.
-/

namespace ProbeRecorder.Toml

/-! ## Digits -/

/-- The digits of a group with single underscores between them; it starts and ends with a digit. -/
def groupedDigits? (isDigit : Char → Bool) (s : List Char) : Option (List Char) :=
  let groups := s.splitOn '_'
  if groups.all (fun g => !g.isEmpty && g.all isDigit) then some groups.flatten else none

/-- The number that digits of a base spell. -/
def inBase? (base : Nat) (s : List Char) : Option Nat :=
  let isDigit (c : Char) : Bool := (Text.hexValue? c).any (· < base)
  (groupedDigits? isDigit s).map fun ds =>
    ds.foldl (fun n c => base * n + (Text.hexValue? c).getD 0) 0

/-- Decimal digits without superfluous zeros in front. -/
def decimalDigits? (s : List Char) : Option (List Char) := do
  let ds ← groupedDigits? Char.isDigit s
  match ds with
  | '0' :: _ :: _ => none
  | _ => some ds

/-- The values of digits. -/
def values (ds : List Char) : List Nat := ds.map fun c => c.toNat - '0'.toNat

/-! ## Numbers -/

/-- An integer of 64 bits. -/
def inRange? (n : Int) : Option Setting :=
  if (Number.signed 64).contains n then some (.int n) else none

/-- **An integer**: decimal, or without a sign in another base. -/
def integer? (s : List Char) : Option Setting :=
  match s with
  | '0' :: 'x' :: rest => (inBase? 16 rest).bind fun n => inRange? n
  | '0' :: 'o' :: rest => (inBase? 8 rest).bind fun n => inRange? n
  | '0' :: 'b' :: rest => (inBase? 2 rest).bind fun n => inRange? n
  | _ =>
    let (negative, body) := Number.splitSign s
    (decimalDigits? body).bind fun ds =>
      let n := Number.digitsValue (values ds)
      inRange? (if negative then Int.negOfNat n else n)

/-- The exponent of a number. -/
def exponent? (s : List Char) : Option Int := do
  let (negative, body) := Number.splitSign s
  let n := Number.digitsValue (values (← groupedDigits? Char.isDigit body))
  return if negative then Int.negOfNat n else n

/-- A number without a sign that has a fraction or an exponent. -/
def numeral? (negative : Bool) (s : List Char) : Option Number.Numeral := do
  let isMark (c : Char) : Bool := c == 'e' || c == 'E'
  let mantissa := s.takeWhile fun c => !isMark c
  let whole ← decimalDigits? (mantissa.takeWhile (· != '.'))
  let fraction ← match mantissa.dropWhile (· != '.') with
    | [] => some none
    | _ :: rest => (groupedDigits? Char.isDigit rest).map some
  let exponent ← match s.dropWhile fun c => !isMark c with
    | [] => some none
    | _ :: rest => (exponent? rest).map some
  if fraction.isNone && exponent.isNone then none
  else return ⟨negative, values whole, values (fraction.getD []), exponent⟩

/-- **A floating-point number.** One that is too large is refused. -/
def float? (s : List Char) : Option Setting :=
  let (negative, body) := Number.splitSign s
  let fmt := Number.binary64
  if body = ['i', 'n', 'f'] then some (.float (fmt.withSign negative fmt.infinity).toUInt64)
  else if body = ['n', 'a', 'n'] then some (.float (fmt.withSign negative fmt.quietNaN).toUInt64)
  else (numeral? negative body).bind fun n =>
    if n.nearest.toNat = fmt.infinity then none else some (.float n.nearest)

/-! ## Dates and times -/

/-- A number of exactly two digits, in bounds. -/
def twoDigits? (low high : Nat) : List Char → Option (List Char × List Char)
  | a :: b :: rest =>
    let n := Number.digitsValue (values [a, b])
    if a.isDigit && b.isDigit && low ≤ n && n ≤ high then some ([a, b], rest) else none
  | _ => none

def isLeap (year : Nat) : Bool := year % 4 == 0 && (year % 100 != 0 || year % 400 == 0)

def daysIn (year month : Nat) : Nat :=
  if month = 2 then (if isLeap year then 29 else 28)
  else if month = 4 || month = 6 || month = 9 || month = 11 then 30
  else 31

/-- A date. -/
def date? : List Char → Option (List Char × List Char)
  | a :: b :: c :: d :: '-' :: rest => do
    let year ← Number.digits? [a, b, c, d]
    let (month, rest) ← twoDigits? 1 12 rest
    match rest with
    | '-' :: rest =>
      let last := daysIn (Number.digitsValue year) (Number.digitsValue (values month))
      let (day, rest) ← twoDigits? 1 last rest
      return ([a, b, c, d, '-'] ++ month ++ '-' :: day, rest)
    | _ => none
  | _ => none

/-- The fraction of a second, to nine places and without zeros at its end. -/
def secondFraction? : List Char → Option (List Char × List Char)
  | '.' :: rest =>
    let digits := rest.takeWhile Char.isDigit
    if digits.isEmpty then none
    else
      let kept := ((digits.take 9).reverse.dropWhile (· == '0')).reverse
      some (if kept.isEmpty then [] else '.' :: kept, rest.dropWhile Char.isDigit)
  | rest => some ([], rest)

/-- A time of day. -/
def time? (s : List Char) : Option (List Char × List Char) := do
  let (hour, rest) ← twoDigits? 0 23 s
  match rest with
  | ':' :: rest =>
    let (minute, rest) ← twoDigits? 0 59 rest
    match rest with
    | ':' :: rest =>
      let (second, rest) ← twoDigits? 0 60 rest
      let (fraction, rest) ← secondFraction? rest
      return (hour ++ ':' :: minute ++ ':' :: second ++ fraction, rest)
    | _ => none
  | _ => none

/-- The distance from universal time; a distance of zero is positive. -/
def offset? : List Char → Option (List Char × List Char)
  | 'Z' :: rest => some (['Z'], rest)
  | 'z' :: rest => some (['Z'], rest)
  | sign :: rest => do
    if sign != '+' && sign != '-' then none
    else
      let (hour, rest) ← twoDigits? 0 23 rest
      match rest with
      | ':' :: rest =>
        let (minute, rest) ← twoDigits? 0 59 rest
        let shown := hour ++ ':' :: minute
        return ((if shown = ['0', '0', ':', '0', '0'] then '+' else sign) :: shown, rest)
      | _ => none
  | [] => none

/-- What stands between a date and a time. -/
def isDateSeparator (c : Char) : Bool := c == 'T' || c == 't' || c == ' '

/-- A time after a date, with or without an offset. -/
def timeAfterDate? : List Char → Option (List Char × List Char)
  | separator :: rest => do
    if isDateSeparator separator then
      let (time, rest) ← time? rest
      match offset? rest with
      | some (offset, rest) => return ('T' :: time ++ offset, rest)
      | none => return ('T' :: time, rest)
    else none
  | [] => none

/-- **A date, a time, or both.** -/
def dateTime? (s : List Char) : Option (List Char × List Char) :=
  match date? s with
  | some (date, rest) =>
    match timeAfterDate? rest with
    | some (time, rest) => some (date ++ time, rest)
    | none => some (date, rest)
  | none => time? s

/-- The date or time that a whole text spells. -/
def dateSetting (s : String) : Except String Setting :=
  match dateTime? s.toList with
  | some (date, []) => .ok (.text (String.ofList date))
  | _ => .error "invalid datetime"

/-! ## Reading -/

/-- Characters of a number or a word. -/
def isScalarChar (c : Char) : Bool := c.isAlphanum || c == '_' || c == '+' || c == '-' || c == '.'

/-- A number or a word. -/
def scalar? (token : List Char) : Option Setting :=
  if token = ['t', 'r', 'u', 'e'] then some (.bool true)
  else if token = ['f', 'a', 'l', 's', 'e'] then some (.bool false)
  else (integer? token).or (float? token)

/-- What a value may start with, apart from quotes and brackets. -/
def startsScalar (c : Char) : Bool :=
  c.isDigit || c == '+' || c == '-' || c == '_' || c == '.' || c == 't' || c == 'f' || c == 'i' || c == 'n'

/-- **Reads a scalar** that is no string. -/
def readScalar : Reader Setting := fun s =>
  match dateTime? s with
  | some (text, rest) => .ok (.text (String.ofList text), rest)
  | none =>
    match scalar? (s.takeWhile isScalarChar) with
    | some value => .ok (value, s.dropWhile isScalarChar)
    | none => stop ["invalid value"] s

end ProbeRecorder.Toml
