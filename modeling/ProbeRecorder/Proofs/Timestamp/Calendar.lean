import Mathlib.Order.Monotone.Basic
import Mathlib.Tactic.IntervalCases
import ProbeRecorder.Timestamp
import ProbeRecorder.Toml.Scalar

/-!
# `ProbeRecorder.Proofs.Timestamp.Calendar` — dates and the days they stand for

The date of a day is computed by divisions, from years that start in March. Here the days before a date are
counted month by month, with the lengths of months that dates in settings are held to, and the two agree.

## Contents
- **Counting.** `daysOfMonths`, `daysBeforeYear`; `Date.Valid` and `Date.number`.
- **Years from March.** `daysBeforeMarch`, and what it has to do with the count
  (`daysBeforeYear_succ_eq`, `daysOfMonths_add_two`).
- **Days of an era.** `EraDay`, a day by centuries, fours of years, and years; the divisions find its year
  (`EraDay.yearInEra_inEra`).
- **Dates of days.** A day lies in its month (`monthFromMarch_bounds`); its date is valid and has its number
  (`dateFromMarch_spec`, `dateOfDay_spec`).
- **Order.** Dates are in the order of their numbers (`Date.number_lt_of_before`, `Date.before_of_number_lt`),
  which tell them apart (`Date.eq_of_number_eq`).
-/

namespace ProbeRecorder.Timestamp

/-! ## Counting -/

/-- Days in the first months of a year. -/
def daysOfMonths (year : Nat) : Nat → Nat
  | 0 => 0
  | months + 1 => daysOfMonths year months + Toml.daysIn year (months + 1)

/-- Days in the years before a year, from the year 0 on. -/
def daysBeforeYear : Nat → Nat
  | 0 => 0
  | year + 1 => daysBeforeYear year + daysOfMonths year 12

namespace Date

/-- **The dates that there are**, from the year 0 on. -/
structure Valid (d : Date) : Prop where
  year : 0 ≤ d.year
  month : 1 ≤ d.month ∧ d.month ≤ 12
  day : 1 ≤ d.day ∧ d.day ≤ Toml.daysIn d.year.toNat d.month

theorem valid_iff (d : Date) : d.Valid ↔ 0 ≤ d.year ∧ (1 ≤ d.month ∧ d.month ≤ 12) ∧
    1 ≤ d.day ∧ d.day ≤ Toml.daysIn d.year.toNat d.month :=
  ⟨fun h => ⟨h.year, h.month, h.day⟩, fun ⟨year, month, day⟩ => ⟨year, month, day⟩⟩

instance (d : Date) : Decidable d.Valid := decidable_of_iff _ d.valid_iff.symm

/-- **The number of a date**: the days before it, from the start of the year 0. -/
def number (d : Date) : Nat :=
  daysBeforeYear d.year.toNat + daysOfMonths d.year.toNat (d.month - 1) + (d.day - 1)

theorem valid_ofNat (year month day : Nat) :
    Valid ⟨year, month, day⟩ ↔ (1 ≤ month ∧ month ≤ 12) ∧ 1 ≤ day ∧ day ≤ Toml.daysIn year month := by
  simp [valid_iff]

theorem number_ofNat (year month day : Nat) :
    number ⟨year, month, day⟩ = daysBeforeYear year + daysOfMonths year (month - 1) + (day - 1) := rfl

end Date

/-! ## Years from March -/

/-- Days from the first of March of the year 0 to the first of March of a year. -/
def daysBeforeMarch (year : Nat) : Nat := 365 * year + year / 4 - year / 100 + year / 400

/-- A leap year has one day more. -/
def leapDay (year : Nat) : Nat := if Toml.isLeap year then 1 else 0

theorem leapDay_eq (year : Nat) :
    leapDay year = if year % 4 = 0 ∧ (year % 100 ≠ 0 ∨ year % 400 = 0) then 1 else 0 := by
  simp [leapDay, Toml.isLeap]

theorem leapDay_le (year : Nat) : leapDay year ≤ 1 := by
  rw [leapDay]
  split <;> omega

theorem daysIn_le (year month : Nat) : Toml.daysIn year month ≤ 31 := by
  unfold Toml.daysIn
  split
  · split <;> omega
  · split <;> omega

theorem daysIn_two (year : Nat) : Toml.daysIn year 2 = 28 + leapDay year := by
  rw [Toml.daysIn, leapDay, if_pos rfl]
  split <;> rfl

/-- The leap years repeat. -/
theorem leapDay_era (era year : Nat) : leapDay (400 * era + year) = leapDay year := by
  have four : (400 * era + year) % 4 = year % 4 := by omega
  have hundred : (400 * era + year) % 100 = year % 100 := by omega
  have fourHundred : (400 * era + year) % 400 = year % 400 := by omega
  rw [leapDay_eq, leapDay_eq, four, hundred, fourHundred]

/-- **From March to March** there is the leap day of the later year. -/
theorem daysBeforeMarch_succ (year : Nat) :
    daysBeforeMarch (year + 1) = daysBeforeMarch year + 365 + leapDay (year + 1) := by
  have leap := leapDay_eq (year + 1)
  have four : (year + 1) / 4 = year / 4 + if (year + 1) % 4 = 0 then 1 else 0 := by split <;> omega
  have hundred : (year + 1) / 100 = year / 100 + if (year + 1) % 100 = 0 then 1 else 0 := by split <;> omega
  have fourHundred : (year + 1) / 400 = year / 400 + if (year + 1) % 400 = 0 then 1 else 0 := by
    split <;> omega
  rw [daysBeforeMarch, daysBeforeMarch]
  -- What a quotient gains is known by the remainder; the leap day depends on the same remainders.
  split at leap <;> split at four <;> split at hundred <;> split at fourHundred <;> omega

/-- **The months from March on** are as long as they are thought to be. -/
theorem daysOfMonths_add_two (year : Nat) {fromMarch : Nat} (h : fromMarch ≤ 10) :
    daysOfMonths year (fromMarch + 2) = 59 + leapDay year + daysBeforeMonth fromMarch := by
  interval_cases fromMarch <;> simp [daysOfMonths, Toml.daysIn, leapDay, daysBeforeMonth] <;> split <;> rfl

theorem daysOfMonths_twelve (year : Nat) : daysOfMonths year 12 = 365 + leapDay year := by
  rw [daysOfMonths_add_two year (Nat.le_refl 10), daysBeforeMonth]
  omega

/-- **The start of a year** by the first of March before it. -/
theorem daysBeforeYear_succ_eq (year : Nat) : daysBeforeYear (year + 1) = daysBeforeMarch year + 366 := by
  induction year with
  | zero => rfl
  | succ year ih => rw [daysBeforeYear, ih, daysOfMonths_twelve, daysBeforeMarch_succ]; omega

/-- The start of a year by the first of March in it. -/
theorem daysBeforeYear_add_leapDay (year : Nat) :
    daysBeforeYear year + leapDay year = daysBeforeMarch year + 1 := by
  have next := daysBeforeYear_succ_eq year
  rw [daysBeforeYear, daysOfMonths_twelve] at next
  omega

/-! ## Days of an era -/

/-- **A day of four hundred years**, told by whole centuries, whole groups of four years, whole years and days. -/
structure EraDay where
  centuries : Nat
  fours : Nat
  years : Nat
  day : Nat
  centuries_le : centuries ≤ 3
  fours_le : fours ≤ 24
  years_le : years ≤ 3
  /-- A leap day ends every group of four years but the last of a century, and that one in the last century. -/
  day_le : day < 365 ∨ day = 365 ∧ years = 3 ∧ (fours < 24 ∨ centuries = 3)

namespace EraDay

/-- The year that the day belongs to. -/
def year (d : EraDay) : Nat := 100 * d.centuries + 4 * d.fours + d.years

/-- Days from the start of the four hundred years. -/
def inEra (d : EraDay) : Nat := daysIn100 * d.centuries + daysIn4 * d.fours + daysIn1 * d.years + d.day

theorem exists_inEra {n : Nat} (h : n < daysIn400) : ∃ d : EraDay, d.inEra = n := by
  simp only [daysIn400] at h
  -- The day behind three centuries and one behind three years of four are leap days, and start nothing new.
  obtain ⟨c, hc⟩ : ∃ c, c = min 3 (n / 36524) := ⟨_, rfl⟩
  obtain ⟨f, hf⟩ : ∃ f, f = (n - 36524 * c) / 1461 := ⟨_, rfl⟩
  obtain ⟨y, hy⟩ : ∃ y, y = min 3 ((n - 36524 * c - 1461 * f) / 365) := ⟨_, rfl⟩
  refine ⟨⟨c, f, y, n - 36524 * c - 1461 * f - 365 * y, ?_, ?_, ?_, ?_⟩, ?_⟩
  · omega
  · omega
  · omega
  · omega
  · simp only [inEra, daysIn100, daysIn4, daysIn1]
    omega

/-- A year from March has a day more if it ends with a leap day. -/
theorem day_lt (d : EraDay) : d.day < 365 + leapDay (d.year + 1) := by
  obtain ⟨c, f, y, n, hc, hf, hy, hn⟩ := d
  simp only [leapDay_eq, year]
  split <;> omega

theorem daysBeforeYearInEra_year (d : EraDay) : daysBeforeYearInEra d.year + d.day = d.inEra := by
  obtain ⟨c, f, y, n, hc, hf, hy, hn⟩ := d
  simp only [daysBeforeYearInEra, inEra, year, daysIn100, daysIn4, daysIn1]
  omega

/-- **The start of a year** of an era. -/
theorem daysBeforeMarch_year (d : EraDay) (era : Nat) :
    daysBeforeMarch (400 * era + d.year) + d.day = daysIn400 * era + d.inEra := by
  obtain ⟨c, f, y, n, hc, hf, hy, hn⟩ := d
  simp only [daysBeforeMarch, inEra, year, daysIn400, daysIn100, daysIn4, daysIn1]
  omega

/-- Late in four years, a leap day is taken off that is still to come. -/
def overcount (d : EraDay) : Nat := (24 * d.centuries + d.fours + 365 * d.years + d.day) / 1460

theorem overcount_bounds (d : EraDay) : d.overcount ≤ d.day ∧ d.day < 365 + d.overcount := by
  obtain ⟨c, f, y, n, hc, hf, hy, hn⟩ := d
  simp only [overcount]
  rcases hn with early | ⟨last, final, -⟩ <;> omega

theorem inEra_div_fours (d : EraDay) : d.inEra / (daysIn4 - 1) = 25 * d.centuries + d.fours + d.overcount := by
  simp only [inEra, overcount, daysIn100, daysIn4, daysIn1]
  omega

theorem inCentury_bounds (d : EraDay) : 1461 * d.fours + 365 * d.years + d.day < 36524 ∨
    1461 * d.fours + 365 * d.years + d.day = 36524 ∧ d.centuries = 3 := by
  obtain ⟨c, f, y, n, hc, hf, hy, hn⟩ := d
  dsimp only
  omega

/-- The last day of all is the only one that the division by centuries counts to a fifth. -/
theorem inEra_div_centuries (d : EraDay) : d.inEra / daysIn100 = d.centuries + d.inEra / (daysIn400 - 1) := by
  have bound := d.centuries_le
  simp only [inEra, daysIn400, daysIn100, daysIn4, daysIn1]
  rcases d.inCentury_bounds with early | ⟨last, final⟩ <;> omega

/-- **The divisions find the year.** -/
theorem yearInEra_inEra (d : EraDay) : yearInEra d.inEra = d.year := by
  have bounds := d.overcount_bounds
  rw [yearInEra, d.inEra_div_fours, d.inEra_div_centuries]
  simp only [inEra, year, daysIn100, daysIn4, daysIn1]
  omega

end EraDay

/-! ## Dates of days -/

/-- **The month of a day** of the year that starts in March. -/
theorem monthFromMarch_bounds {inYear : Nat} (h : inYear ≤ 365) :
    monthFromMarch inYear ≤ 11 ∧ daysBeforeMonth (monthFromMarch inYear) ≤ inYear ∧
      inYear < daysBeforeMonth (monthFromMarch inYear + 1) := by
  simp only [monthFromMarch, daysBeforeMonth]
  omega

/-- **A day of a year that starts in March** has a valid date, with its number. -/
theorem dateFromMarch_spec (year : Nat) {inYear : Nat} (h : inYear < 365 + leapDay (year + 1)) :
    (dateFromMarch year inYear).Valid ∧
      (dateFromMarch year inYear).number = daysBeforeMarch year + inYear + 60 := by
  have leap := leapDay_le (year + 1)
  have inside : inYear ≤ 365 := by omega
  obtain ⟨last, start, stop⟩ := monthFromMarch_bounds inside
  obtain ⟨m, hm⟩ : ∃ m, m = monthFromMarch inYear := ⟨_, rfl⟩
  rw [← hm] at last start stop
  rw [dateFromMarch, ← hm]
  by_cases early : m + 1 ≤ 10
  · -- From March to December, the months before are those of the same year.
    have before := daysOfMonths_add_two year (Nat.le_of_lt early)
    have through : daysOfMonths year (m + 2) + Toml.daysIn year (m + 3) = _ := daysOfMonths_add_two year early
    have first := daysBeforeYear_add_leapDay year
    simp only [if_pos (show m < 10 from early), Date.valid_ofNat, Date.number_ofNat]
    rw [show m + 3 - 1 = m + 2 by omega]
    omega
  · -- January and February belong to the next year.
    have first := daysBeforeYear_succ_eq year
    have next : (year : Int) + 1 = (year + 1 : Nat) := rfl
    have january : daysOfMonths (year + 1) 1 = 31 := rfl
    have winter : m = 10 ∨ m = 11 := by omega
    simp only [if_neg (show ¬m < 10 by omega), next, Date.valid_ofNat, Date.number_ofNat]
    rcases winter with rfl | rfl
    · have days : Toml.daysIn (year + 1) 1 = 31 := rfl
      simp only [daysBeforeMonth, Nat.reduceMul, Nat.reduceAdd, Nat.reduceDiv, Nat.reduceSub, days] at *
      rw [daysOfMonths]
      omega
    · simp only [daysBeforeMonth, Nat.reduceMul, Nat.reduceAdd, Nat.reduceDiv, Nat.reduceSub, daysIn_two,
        january] at *
      omega

theorem number_epoch : Moment.epoch.date.number = 719528 := by
  have date : Moment.epoch.date = ⟨(1969 + 1 : Nat), 1, 1⟩ := rfl
  rw [date, Date.number_ofNat, daysBeforeYear_succ_eq]
  rfl

/-- **The date of a day**, by its place in an era. -/
theorem dateOfDay_eq {n : Int} {era : Nat} {d : EraDay} (h : n + daysBeforeEpoch = daysIn400 * era + d.inEra)
    (inside : d.inEra < daysIn400) : dateOfDay n = dateFromMarch (400 * era + d.year : Nat) d.day := by
  have quotient : (n + daysBeforeEpoch) / daysIn400 = era := by
    simp only [daysIn400] at *
    omega
  have rest : ((n + daysBeforeEpoch) % daysIn400).toNat = d.inEra := by
    simp only [daysIn400] at *
    omega
  have day : d.inEra - daysBeforeYearInEra d.year = d.day := by
    have split := d.daysBeforeYearInEra_year
    omega
  rw [dateOfDay]
  simp only [quotient, rest, d.yearInEra_inEra, day]
  rfl

/-- **The date of a day** is valid and has its number, from the first of March of the year 0 on. -/
theorem dateOfDay_spec {n : Int} (h : 0 ≤ n + daysBeforeEpoch) :
    (dateOfDay n).Valid ∧ ((dateOfDay n).number : Int) = n + Moment.epoch.date.number := by
  obtain ⟨k, hk⟩ := Int.eq_ofNat_of_zero_le h
  have inside : k % daysIn400 < daysIn400 := Nat.mod_lt k (by decide)
  obtain ⟨d, hd⟩ := EraDay.exists_inEra inside
  have place : n + daysBeforeEpoch = daysIn400 * (k / daysIn400 : Nat) + d.inEra := by
    rw [hk, hd]
    exact_mod_cast (Nat.div_add_mod k daysIn400).symm
  have bounded : d.day < 365 + leapDay (400 * (k / daysIn400) + d.year + 1) := by
    rw [Nat.add_assoc, leapDay_era]
    exact d.day_lt
  obtain ⟨valid, number⟩ := dateFromMarch_spec _ bounded
  rw [dateOfDay_eq place (hd ▸ inside)]
  refine ⟨valid, ?_⟩
  have start := d.daysBeforeMarch_year (k / daysIn400)
  rw [number, number_epoch]
  simp only [daysBeforeEpoch] at place
  omega

/-! ## Order -/

theorem daysOfMonths_mono (year : Nat) : Monotone (daysOfMonths year) :=
  monotone_nat_of_le_succ fun _ => Nat.le_add_right _ _

theorem daysBeforeYear_mono : Monotone daysBeforeYear :=
  monotone_nat_of_le_succ fun _ => Nat.le_add_right _ _

namespace Date

/-- **Earlier dates**: by year, then by month, then by day. -/
def Before (d e : Date) : Prop :=
  d.year < e.year ∨ d.year = e.year ∧ (d.month < e.month ∨ d.month = e.month ∧ d.day < e.day)

variable {d e : Date}

/-- A valid date lies in its month. -/
theorem Valid.lt_month (h : d.Valid) :
    daysOfMonths d.year.toNat (d.month - 1) + (d.day - 1) < daysOfMonths d.year.toNat d.month := by
  obtain ⟨first, last⟩ := h.day
  obtain ⟨m, hm⟩ := Nat.exists_eq_add_of_le' h.month.1
  rw [hm] at last ⊢
  rw [daysOfMonths, Nat.add_sub_cancel]
  omega

/-- A valid date lies in its year. -/
theorem Valid.number_lt (h : d.Valid) : d.number < daysBeforeYear (d.year.toNat + 1) := by
  have inMonth := h.lt_month
  have inYear := daysOfMonths_mono d.year.toNat h.month.2
  rw [number, daysBeforeYear]
  omega

/-- **Earlier dates have smaller numbers.** -/
theorem number_lt_of_before (hd : d.Valid) (h : d.Before e) : d.number < e.number := by
  have inMonth := hd.lt_month
  rcases h with year | ⟨year, month | ⟨month, day⟩⟩
  · have start : daysBeforeYear (d.year.toNat + 1) ≤ daysBeforeYear e.year.toNat :=
      daysBeforeYear_mono (by have := hd.year; omega)
    calc d.number < daysBeforeYear (d.year.toNat + 1) := hd.number_lt
      _ ≤ daysBeforeYear e.year.toNat := start
      _ ≤ e.number := by rw [number, Nat.add_assoc]; exact Nat.le_add_right _ _
  · have start : daysOfMonths d.year.toNat d.month ≤ daysOfMonths d.year.toNat (e.month - 1) :=
      daysOfMonths_mono d.year.toNat (by omega)
    rw [number, number, ← year]
    omega
  · have first := hd.day.1
    rw [number, number, ← year, ← month]
    omega

theorem before_trichotomy (d e : Date) : d.Before e ∨ d = e ∨ e.Before d := by
  obtain ⟨y, m, n⟩ := d
  obtain ⟨y', m', n'⟩ := e
  simp only [Before, Date.mk.injEq]
  omega

/-- **Smaller numbers have earlier dates.** -/
theorem before_of_number_lt (he : e.Valid) (h : d.number < e.number) : d.Before e := by
  rcases before_trichotomy d e with before | rfl | after
  · exact before
  · exact absurd h (Nat.lt_irrefl _)
  · exact absurd h (Nat.lt_asymm (number_lt_of_before he after))

/-- **Numbers tell dates apart.** -/
theorem eq_of_number_eq (hd : d.Valid) (he : e.Valid) (h : d.number = e.number) : d = e := by
  rcases before_trichotomy d e with before | same | after
  · exact absurd h (Nat.ne_of_lt (number_lt_of_before hd before))
  · exact same
  · exact absurd h.symm (Nat.ne_of_lt (number_lt_of_before he after))

end Date

end ProbeRecorder.Timestamp
