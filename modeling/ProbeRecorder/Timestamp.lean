import ProbeRecorder.Number.Shortest

/-!
# `ProbeRecorder.Timestamp` — points in time as text

Times are counted in nanoseconds from the start of 1970, in UTC; they are written as in RFC 3339.

## Contents
- **Calendar.** `Date` and `dateOfDay`.
- **Moments.** `Moment`, a date with a time of day; `Moment.ofClock?`, which the calendar bounds.
- **Text.** `Moment.render`, with as many groups of three fraction digits as are needed; `moment?` and `render`
  for a clock reading.
-/

namespace ProbeRecorder.Timestamp

/-! ## Calendar -/

/-- A date of the Gregorian calendar, which is carried on before its introduction. -/
structure Date where
  year : Int
  month : Nat
  day : Nat
  deriving DecidableEq, Repr

/-- Days in four hundred years, in a hundred, in four, and in one that is no leap year. -/
def daysIn400 : Nat := 146097

def daysIn100 : Nat := 36524

def daysIn4 : Nat := 1461

def daysIn1 : Nat := 365

/-- Days from the first of March of the year 0 to the start of 1970. -/
def daysBeforeEpoch : Nat := 719468

/-- The year, of four hundred, that a day of them belongs to. -/
def yearInEra (inEra : Nat) : Nat :=
  (inEra - inEra / (daysIn4 - 1) + inEra / daysIn100 - inEra / (daysIn400 - 1)) / daysIn1

/-- Days from the start of four hundred years to the start of one of them. -/
def daysBeforeYearInEra (year : Nat) : Nat := daysIn1 * year + year / 4 - year / 100

/-- Months from March to the month that a day of the year belongs to. -/
def monthFromMarch (inYear : Nat) : Nat := (5 * inYear + 2) / 153

/-- Days from the first of March to the first of the month at this distance. -/
def daysBeforeMonth (fromMarch : Nat) : Nat := (153 * fromMarch + 2) / 5

/-- The date of a day of the year that starts in March of some year. -/
def dateFromMarch (year : Int) (inYear : Nat) : Date :=
  let fromMarch := monthFromMarch inYear
  let day := inYear - daysBeforeMonth fromMarch + 1
  if fromMarch < 10 then ⟨year, fromMarch + 3, day⟩ else ⟨year + 1, fromMarch - 9, day⟩

/-- **The date of a day** counted from the start of 1970. Years are taken to start in March, so that the
    leap day comes last. -/
def dateOfDay (n : Int) : Date :=
  let day := n + daysBeforeEpoch
  let inEra := (day % daysIn400).toNat
  let year := yearInEra inEra
  dateFromMarch (400 * (day / daysIn400) + year) (inEra - daysBeforeYearInEra year)

/-! ## Moments -/

/-- **A moment** in UTC. -/
structure Moment where
  date : Date
  /-- Seconds from the start of the day. -/
  second : Nat
  /-- Nanoseconds of the second. A leap second is told as more of them, in the second before it. -/
  nanos : Nat
  deriving DecidableEq, Repr

namespace Moment

/-- The start of 1970. -/
def epoch : Moment := ⟨⟨1970, 1, 1⟩, 0, 0⟩

/-- The years of the calendar. -/
def firstYear : Int := -262143

def lastYear : Int := 262142

/-- A second has these nanoseconds; only the last one of a minute can be followed by a leap second. -/
def hasNanos (second nanos : Nat) : Bool :=
  nanos < 1000000000 || (second % 60 == 59 && nanos < 2000000000)

/-- **The moment** of a clock that counts seconds from the start of 1970, and nanoseconds; there is none
    beyond the years of the calendar. -/
def ofClock? (seconds : Int64) (nanos : UInt32) : Option Moment :=
  let date := dateOfDay (seconds.toInt / 86400)
  let second := (seconds.toInt % 86400).toNat
  if firstYear ≤ date.year && date.year ≤ lastYear && hasNanos second nanos.toNat then
    some ⟨date, second, nanos.toNat⟩
  else none

end Moment

/-! ## Text -/

/-- A number in at least `width` digits. -/
def padded (width n : Nat) : List Char :=
  let digits := Number.decimalDigits n
  List.replicate (width - digits.length) '0' ++ digits

/-- A year; where four digits are not enough for it, or it is before the year 0, with a sign. -/
def yearText (year : Int) : List Char :=
  if 0 ≤ year && year ≤ 9999 then padded 4 year.toNat
  else (if year < 0 then '-' else '+') :: padded 4 year.natAbs

/-- The fraction of a second, in no, three, six or nine digits. -/
def fraction (nanos : Nat) : List Char :=
  if nanos = 0 then []
  else if nanos % 1000000 = 0 then '.' :: padded 3 (nanos / 1000000)
  else if nanos % 1000 = 0 then '.' :: padded 6 (nanos / 1000)
  else '.' :: padded 9 nanos

def Date.render (d : Date) : List Char :=
  yearText d.year ++ '-' :: padded 2 d.month ++ '-' :: padded 2 d.day

/-- The text of a time of day. A leap second is the sixty-first of its minute. -/
def timeText (second nanos : Nat) : List Char :=
  padded 2 (second / 3600) ++ ':' :: padded 2 (second / 60 % 60)
    ++ ':' :: padded 2 (second % 60 + nanos / 1000000000) ++ fraction (nanos % 1000000000)

/-- The distance from UTC, which is none. -/
def noOffset : List Char := ['+', '0', '0', ':', '0', '0']

/-- **The text of a moment.** -/
def Moment.render (m : Moment) : List Char := m.date.render ++ 'T' :: timeText m.second m.nanos ++ noOffset

/-- The moment of a clock reading in nanoseconds. -/
def moment? (nanoseconds : UInt64) : Option Moment :=
  Moment.ofClock? (nanoseconds / 1000000000).toInt64 (nanoseconds % 1000000000).toUInt32

/-- **The text of a time** in UTC; the start of 1970 stands in for a moment that there is not. -/
def render (nanoseconds : UInt64) : List Char := ((moment? nanoseconds).getD Moment.epoch).render

end ProbeRecorder.Timestamp
