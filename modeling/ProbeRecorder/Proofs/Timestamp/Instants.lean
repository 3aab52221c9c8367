import ProbeRecorder.Proofs.Timestamp.Calendar
import ProbeRecorder.Proofs.Timestamp.Digits

/-!
# `ProbeRecorder.Proofs.Timestamp.Instants` — the instants that texts of times denote

A text of a date, a time of day and a distance from UTC is read by itself, with dates counted month by month
and the distance taken into account. The text of a moment denotes the moment, and the texts of two moments are
in the order of time.

## Contents
- **Reading.** `date?`, `time?`, `nanos?` and `offset?`, and `instant?` for a whole text.
- **Parts.** Each part of a text is read as what it was written for (`number?_padded`, `date?_render`,
  `time?_text`, `nanos?_fraction`).
- **Moments.** `Moment.Ordinary` and `Moment.instant`; `instant?_render`.
- **Lengths.** `length_render`.
- **Order.** `Moment.Before`; earlier instants have earlier moments (`Moment.before_of_instant_lt`), and these
  have smaller texts (`Moment.render_lt_of_before`).
- **Clock readings.** Every reading has an ordinary moment, at its instant (`exists_moment?`).
-/

namespace ProbeRecorder.Timestamp

open Number (digitsValue digits?)

/-! ## Reading -/

/-- What follows a mark. -/
def mark? (mark : Char) : List Char → Option (List Char)
  | c :: rest => if c = mark then some rest else none
  | [] => none

/-- A number of exactly so many digits, and what follows it. -/
def number? (width : Nat) (s : List Char) : Option (Nat × List Char) := do
  let digits ← digits? (s.take width)
  if digits.length = width then some (digitsValue digits, s.drop width) else none

/-- A date that there is. -/
def date? (s : List Char) : Option (Date × List Char) := do
  let (year, s) ← number? 4 s
  let s ← mark? '-' s
  let (month, s) ← number? 2 s
  let s ← mark? '-' s
  let (day, s) ← number? 2 s
  if Date.Valid ⟨year, month, day⟩ then some (⟨year, month, day⟩, s) else none

/-- A time of day, in seconds. A leap second has no place in this count. -/
def time? (s : List Char) : Option (Nat × List Char) := do
  let (hour, s) ← number? 2 s
  let s ← mark? ':' s
  let (minute, s) ← number? 2 s
  let s ← mark? ':' s
  let (second, s) ← number? 2 s
  if hour < 24 ∧ minute < 60 ∧ second < 60 then some (3600 * hour + 60 * minute + second, s) else none

/-- The fraction of a second, in nanoseconds; it may be absent, and has nine digits at most. -/
def nanos? : List Char → Option (Nat × List Char)
  | '.' :: rest => do
    let digits ← digits? (rest.takeWhile Char.isDigit)
    if digits.length ≤ 9 then
      some (digitsValue (digits ++ List.replicate (9 - digits.length) 0), rest.dropWhile Char.isDigit)
    else none
  | rest => some (0, rest)

/-- The distance from UTC in minutes, with which the text ends. -/
def offset? : List Char → Option Int
  | ['Z'] => some 0
  | sign :: rest => do
    let (hours, rest) ← number? 2 rest
    let rest ← mark? ':' rest
    let (minutes, rest) ← number? 2 rest
    if rest = [] ∧ hours < 24 ∧ minutes < 60 then
      if sign = '+' then some (60 * hours + minutes)
      else if sign = '-' then some (-(60 * hours + minutes))
      else none
    else none
  | [] => none

/-- **The instant that a text denotes**, in nanoseconds from the start of 1970 in UTC. -/
def instant? (s : List Char) : Option Int := do
  let (date, s) ← date? s
  let s ← mark? 'T' s
  let (second, s) ← time? s
  let (nanos, s) ← nanos? s
  let ahead ← offset? s
  let day : Int := date.number - Moment.epoch.date.number
  return 1000000000 * (86400 * day + second - 60 * ahead) + nanos

/-! ## Parts -/

section Parts

variable {width n : Nat} {d : Date} {rest : List Char}

theorem mark?_cons (mark : Char) (rest : List Char) : mark? mark (mark :: rest) = some rest := if_pos rfl

theorem number?_padded (fits : n < 10 ^ width) (positive : 0 < width) (rest : List Char) :
    number? width (padded width n ++ rest) = some (n, rest) := by
  have length := length_padded fits positive
  have present : Number.places width n ≠ [] := by
    intro empty
    have none := Number.length_places width n
    rw [empty, List.length_nil] at none
    omega
  rw [number?, List.take_left' length, List.drop_left' length, padded_eq fits positive,
    Number.digits?_digitChars present (Number.places_lt width n)]
  show (if _ then some (_, rest) else none) = _
  rw [if_pos (Number.length_places width n), Number.digitsValue_places fits]

theorem yearText_eq {year : Int} (positive : 0 ≤ year) (late : year ≤ 9999) :
    yearText year = padded 4 year.toNat := by
  rw [yearText, if_pos (by simp [positive, late])]

/-- **A date is read as it was written.** -/
theorem date?_render (valid : d.Valid) (late : d.year ≤ 9999) (rest : List Char) :
    date? (d.render ++ rest) = some (d, rest) := by
  obtain ⟨year, month, day⟩ := d
  obtain ⟨y, rfl⟩ := Int.eq_ofNat_of_zero_le valid.year
  have fits : y < 10 ^ 4 := by
    have : (y : Int) ≤ 9999 := late
    omega
  have bounds := (Date.valid_ofNat y month day).mp valid
  have short := daysIn_le y month
  have text : yearText y = padded 4 y := yearText_eq valid.year late
  simp only [Date.render, text, date?, List.append_assoc, List.cons_append, number?_padded fits (by decide),
    number?_padded (show month < 10 ^ 2 by omega) (by decide),
    number?_padded (show day < 10 ^ 2 by omega) (by decide), mark?_cons, Option.bind_eq_bind, Option.bind_some]
  exact if_pos valid

/-- **A time of day is read as it was written**, up to its fraction. -/
theorem time?_text {second nanos : Nat} (h : second < 86400) (small : nanos < 1000000000) (rest : List Char) :
    time? (timeText second nanos ++ rest) = some (second, fraction nanos ++ rest) := by
  have whole : second % 60 + nanos / 1000000000 = second % 60 := by omega
  have sum : 3600 * (second / 3600) + 60 * (second / 60 % 60) + second % 60 = second := by omega
  simp only [timeText, time?, whole, Nat.mod_eq_of_lt small, List.append_assoc, List.cons_append, mark?_cons,
    number?_padded (show second / 3600 < 10 ^ 2 by omega) (by decide),
    number?_padded (show second / 60 % 60 < 10 ^ 2 by omega) (by decide),
    number?_padded (show second % 60 < 10 ^ 2 by omega) (by decide), Option.bind_eq_bind, Option.bind_some, sum]
  exact if_pos ⟨by omega, by omega, by omega⟩

/-- **A fraction is read as it was written**, before a character that is no digit and no point. -/
theorem nanos?_fraction (fits : n < 10 ^ 9) {c : Char} (other : c.isDigit = false) (noPoint : c ≠ '.')
    (rest : List Char) : nanos? (fraction n ++ c :: rest) = some (n, c :: rest) := by
  by_cases whole : n = 0
  · rw [whole, fraction, if_pos rfl, List.nil_append]
    unfold nanos?
    split
    · next point => exact absurd (List.cons.inj point).1 noPoint
    · rfl
  · obtain ⟨digits, shown⟩ := exists_shows whole fits
    have digit : ∀ x ∈ digits.map Nat.digitChar, x.isDigit = true := by
      intro x hx
      obtain ⟨e, he, rfl⟩ := List.mem_map.mp hx
      exact Number.isDigit_digitChar e (shown.small e he)
    have taken : (digits.map Nat.digitChar ++ c :: rest).takeWhile Char.isDigit = digits.map Nat.digitChar := by
      rw [List.takeWhile_append_of_pos digit, List.takeWhile_cons_of_neg (by simp [other]), List.append_nil]
    have left : (digits.map Nat.digitChar ++ c :: rest).dropWhile Char.isDigit = c :: rest := by
      rw [List.dropWhile_append_of_pos digit, List.dropWhile_cons_of_neg (by simp [other])]
    have few : 0 < digits.length ∧ digits.length ≤ 9 := by
      have := shown.groups
      omega
    have present : digits ≠ [] := List.ne_nil_of_length_pos few.1
    rw [shown.text, List.cons_append, nanos?, taken, left, Number.digits?_digitChars present shown.small]
    show (if _ then some (_, c :: rest) else none) = _
    rw [if_pos few.2, shown.nine, Number.digitsValue_places fits]

end Parts

/-! ## Moments -/

namespace Moment

/-- **Ordinary moments**: valid dates in years of four digits, and no leap seconds. -/
structure Ordinary (m : Moment) : Prop where
  date : m.date.Valid
  year : m.date.year ≤ 9999
  second : m.second < 86400
  nanos : m.nanos < 1000000000

/-- **The instant of a moment**, in nanoseconds from the start of 1970. -/
def instant (m : Moment) : Int :=
  1000000000 * (86400 * ((m.date.number : Int) - epoch.date.number) + m.second) + m.nanos

end Moment

/-- **The text of a moment denotes its instant.** -/
theorem instant?_render {m : Moment} (h : m.Ordinary) : instant? m.render = some m.instant := by
  have point : nanos? (fraction m.nanos ++ noOffset) = some (m.nanos, noOffset) :=
    nanos?_fraction h.nanos rfl (by decide) ['0', '0', ':', '0', '0']
  have utc : offset? noOffset = some 0 := rfl
  simp only [Moment.render, instant?, List.append_assoc, List.cons_append, date?_render h.date h.year, mark?_cons,
    time?_text h.second h.nanos, point, utc, Option.bind_eq_bind, Option.bind_some]
  show some _ = some _
  rw [Moment.instant, Int.mul_zero, Int.sub_zero]

/-- The distance from UTC counts. -/
example : instant? "1969-12-31T23:30:00.5-01:00".toList = some 1800500000000 := by decide +kernel

example : instant? "2023-02-29T00:00:00Z".toList = none := by decide +kernel

/-! ## Lengths -/

theorem length_date {d : Date} (valid : d.Valid) (late : d.year ≤ 9999) : d.render.length = 10 := by
  have month := valid.month.2
  have day := Nat.le_trans valid.day.2 (daysIn_le d.year.toNat d.month)
  rw [Date.render, yearText_eq valid.year late, List.length_append, List.length_append, List.length_cons,
    List.length_cons, length_padded (by omega) (by decide), length_padded (by omega) (by decide),
    length_padded (by omega) (by decide)]

theorem length_time {second nanos : Nat} (h : second < 86400) (small : nanos < 1000000000) :
    (timeText second nanos).length = 8 + (fraction nanos).length := by
  rw [timeText, Nat.mod_eq_of_lt small, List.length_append, List.length_append, List.length_append,
    List.length_cons, List.length_cons, length_padded (by omega) (by decide),
    length_padded (by omega) (by decide), length_padded (by omega) (by decide)]

/-- **The text of a moment** is as long as its fraction makes it. -/
theorem length_render {m : Moment} (h : m.Ordinary) : m.render.length = 25 + (fraction m.nanos).length := by
  rw [Moment.render, List.length_append, List.length_append, List.length_cons, length_date h.date h.year,
    length_time h.second h.nanos, show noOffset.length = 6 from rfl]
  omega

/-! ## Order -/

/-- **Earlier dates have smaller texts**, and behind the same date the order is that of what follows. -/
theorem date_append_lt {d e : Date} (hd : d.Valid) (he : e.Valid) (late : e.year ≤ 9999) {s t : List Char}
    (h : d.Before e ∨ d = e ∧ s < t) : d.render ++ s < e.render ++ t := by
  have first := hd.year
  have parts : d.year.toNat < e.year.toNat ∨ d.year.toNat = e.year.toNat ∧
      (d.month < e.month ∨ d.month = e.month ∧ (d.day < e.day ∨ d.day = e.day ∧ s < t)) := by
    rcases h with (year | ⟨year, month | ⟨month, day⟩⟩) | ⟨rfl, rest⟩
    · exact .inl (by omega)
    · exact .inr ⟨congrArg Int.toNat year, .inl month⟩
    · exact .inr ⟨congrArg Int.toNat year, .inr ⟨month, .inl day⟩⟩
    · exact .inr ⟨rfl, .inr ⟨rfl, .inr ⟨rfl, rest⟩⟩⟩
  have early : d.year ≤ 9999 := by omega
  have month := he.month.2
  have day := Nat.le_trans he.day.2 (daysIn_le e.year.toNat e.month)
  simp only [Date.render, yearText_eq first early, yearText_eq he.year late, List.append_assoc, List.cons_append]
  refine padded_mark_lt (by omega) (by decide) '-' (parts.imp_right (And.imp_right fun rest => ?_))
  refine padded_mark_lt (by omega) (by decide) '-' (rest.imp_right (And.imp_right fun rest => ?_))
  exact padded_append_lt (by omega) (by decide) rest

/-- **Earlier times of day have smaller texts.** -/
theorem time_append_lt {second later nanos nanosLater : Nat} (bound : later < 86400) (small : nanos < 1000000000)
    (smallLater : nanosLater < 1000000000) (h : second < later ∨ second = later ∧ nanos < nanosLater) :
    timeText second nanos ++ noOffset < timeText later nanosLater ++ noOffset := by
  have parts : second / 3600 < later / 3600 ∨ second / 3600 = later / 3600 ∧
      (second / 60 % 60 < later / 60 % 60 ∨ second / 60 % 60 = later / 60 % 60 ∧
        (second % 60 < later % 60 ∨ second % 60 = later % 60 ∧ nanos < nanosLater)) := by omega
  have whole : second % 60 + nanos / 1000000000 = second % 60 := by omega
  have wholeLater : later % 60 + nanosLater / 1000000000 = later % 60 := by omega
  simp only [timeText, whole, wholeLater, Nat.mod_eq_of_lt small, Nat.mod_eq_of_lt smallLater, List.append_assoc,
    List.cons_append]
  refine padded_mark_lt (by omega) (by decide) ':' (parts.imp_right (And.imp_right fun rest => ?_))
  refine padded_mark_lt (by omega) (by decide) ':' (rest.imp_right (And.imp_right fun rest => ?_))
  refine padded_append_lt (by omega) (by decide) (rest.imp_right (And.imp_right fun rest => ?_))
  -- The sign of the offset stands before the point and all digits.
  exact fraction_append_lt rest smallLater (by decide)

namespace Moment

/-- **Earlier moments**: by date, then by second, then by nanosecond. -/
def Before (m k : Moment) : Prop :=
  m.date.Before k.date ∨ m.date = k.date ∧ (m.second < k.second ∨ m.second = k.second ∧ m.nanos < k.nanos)

variable {m k : Moment}

/-- **Earlier instants have earlier moments.** -/
theorem before_of_instant_lt (hm : m.Ordinary) (hk : k.Ordinary) (h : m.instant < k.instant) : m.Before k := by
  have second := hm.second
  have secondLater := hk.second
  have nanos := hm.nanos
  have nanosLater := hk.nanos
  rw [instant, instant] at h
  -- A day is longer than any time of day, and a second than any nanoseconds, so the largest unit decides.
  rcases Nat.lt_trichotomy m.date.number k.date.number with date | date | date
  · exact .inl (Date.before_of_number_lt hk.date date)
  · refine .inr ⟨Date.eq_of_number_eq hm.date hk.date date, ?_⟩
    omega
  · omega

/-- **Earlier moments have smaller texts.** -/
theorem render_lt_of_before (hm : m.Ordinary) (hk : k.Ordinary) (h : m.Before k) : m.render < k.render := by
  simp only [render, List.append_assoc, List.cons_append]
  refine date_append_lt hm.date hk.date hk.year (h.imp_right (And.imp_right fun rest => ?_))
  exact .cons (time_append_lt hk.second hm.nanos hk.nanos rest)

end Moment

/-! ## Clock readings -/

theorem toInt_seconds (t : UInt64) : (t / 1000000000).toInt64.toInt = (t.toNat / 1000000000 : Nat) := by
  have bound := t.toNat_lt
  have quotient : (t / 1000000000).toNat = t.toNat / 1000000000 := UInt64.toNat_div t 1000000000
  rw [← UInt64.ofNat_toNat (x := t / 1000000000), UInt64.toInt64_ofNat', Int64.toInt_ofNat_of_lt, quotient]
  omega

theorem toNat_nanos (t : UInt64) : (t % 1000000000).toUInt32.toNat = t.toNat % 1000000000 := by
  have rest : (t % 1000000000).toNat = t.toNat % 1000000000 := UInt64.toNat_mod t 1000000000
  rw [UInt64.toNat_toUInt32, rest]
  omega

theorem le_daysBeforeYear (year : Nat) : 365 * year ≤ daysBeforeYear year := by
  have start := daysBeforeYear_add_leapDay year
  have leap := leapDay_le year
  rw [daysBeforeMarch] at start
  omega

/-- The years of the next million days have four digits. -/
theorem year_dateOfDay {n : Nat} (h : n < 1000000) : 0 ≤ (dateOfDay n).year ∧ (dateOfDay n).year ≤ 9999 := by
  obtain ⟨valid, number⟩ := dateOfDay_spec (n := n) (by simp only [daysBeforeEpoch]; omega)
  have start := le_daysBeforeYear (dateOfDay n).year.toNat
  have first := valid.year
  rw [number_epoch, Date.number] at number
  omega

/-- **The clock's moment**, for readings that the calendar has. -/
theorem ofClock?_eq {seconds : Int64} {nanos : UInt32} {s : Nat} (reads : seconds.toInt = s)
    (bound : s / 86400 < 1000000) (small : nanos.toNat < 1000000000) :
    Moment.ofClock? seconds nanos = some ⟨dateOfDay (s / 86400 : Nat), s % 86400, nanos.toNat⟩ := by
  have day : (s : Int) / 86400 = (s / 86400 : Nat) := rfl
  have second : ((s : Int) % 86400).toNat = s % 86400 := rfl
  obtain ⟨early, late⟩ := year_dateOfDay bound
  have notBefore : Moment.firstYear ≤ (dateOfDay (s / 86400 : Nat)).year := by
    rw [Moment.firstYear]
    omega
  have notAfter : (dateOfDay (s / 86400 : Nat)).year ≤ Moment.lastYear := by
    rw [Moment.lastYear]
    omega
  have ordinary : Moment.hasNanos (s % 86400) nanos.toNat = true := by simp [Moment.hasNanos, small]
  rw [Moment.ofClock?, reads, day, second]
  exact if_pos (by rw [decide_eq_true notBefore, decide_eq_true notAfter, ordinary]; rfl)

/-- **Every clock reading has a moment**, at its instant. -/
theorem exists_moment? (t : UInt64) : ∃ m, moment? t = some m ∧ m.Ordinary ∧ m.instant = t.toNat := by
  have bound := t.toNat_lt
  have inside : t.toNat / 1000000000 / 86400 < 1000000 := by omega
  have small : t.toNat % 1000000000 < 1000000000 := Nat.mod_lt _ (by decide)
  have made := ofClock?_eq (toInt_seconds t) inside (by rwa [toNat_nanos])
  obtain ⟨valid, number⟩ := dateOfDay_spec (n := (t.toNat / 1000000000 / 86400 : Nat))
    (by simp only [daysBeforeEpoch]; omega)
  rw [toNat_nanos] at made
  refine ⟨_, made, ⟨valid, (year_dateOfDay inside).2, Nat.mod_lt _ (by decide), small⟩, ?_⟩
  rw [Moment.instant]
  dsimp only
  omega

/-- **The text of a clock reading** is that of its moment. -/
theorem render_eq {t : UInt64} {m : Moment} (h : moment? t = some m) : render t = m.render := by
  rw [render, h, Option.getD_some]

end ProbeRecorder.Timestamp
