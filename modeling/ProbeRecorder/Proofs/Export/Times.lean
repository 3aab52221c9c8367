import Mathlib.Data.String.Basic
import ProbeRecorder.Export.Format
import ProbeRecorder.Json.Access
import ProbeRecorder.Proofs.Timestamp.Instants

/-!
# `ProbeRecorder.Proofs.Export.Times` — times as they are exported

The record of an event shows its time as a text. The text denotes the clock reading to the nanosecond, and texts
are in the order of the readings, though they are not of one length.

## Contents
- **Texts.** `Event.ShowsTime`, and the text of an event (`showsTime_timeText`).
- **Order.** `timeText_eq_iff` and `timeText_lt_iff`; all of it for any two events in `exportedTimes_sorted`.
-/

namespace ProbeRecorder

namespace Event

/-! ## Texts -/

/-- The text of an event's time. -/
def timeText (e : Event) : String := String.ofList (Timestamp.render e.timestamp)

/-- **A text is shown as the time** of an event. -/
structure ShowsTime (e : Event) (text : String) : Prop where
  shown : e.exportJson.field "timestamp" = .str text
  /-- The calendar has the moment, so the start of 1970 does not stand in for it. -/
  counted : ∃ m, Timestamp.moment? e.timestamp = some m ∧ text = String.ofList m.render
  /-- The text denotes the clock reading, to the nanosecond. -/
  exact : Timestamp.instant? text.toList = some (e.timestamp.toNat : Int)
  /-- No, three, six or nine digits of a fraction are shown. -/
  length : text.length = 25 ∨ text.length = 29 ∨ text.length = 32 ∨ text.length = 35

theorem field_timestamp (e : Event) : e.exportJson.field "timestamp" = .str e.timeText := by
  obtain ⟨probe, value, payload, timestamp, thread, isAnchor⟩ := e
  cases payload <;> rfl

theorem showsTime_timeText (e : Event) : e.ShowsTime e.timeText := by
  obtain ⟨m, made, ordinary, instant⟩ := Timestamp.exists_moment? e.timestamp
  have text : e.timeText = String.ofList m.render := congrArg String.ofList (Timestamp.render_eq made)
  refine ⟨e.field_timestamp, ⟨m, made, text⟩, ?_, ?_⟩
  · rw [text, String.toList_ofList, Timestamp.instant?_render ordinary, instant]
  · have fraction := Timestamp.length_fraction ordinary.nanos
    rw [text, String.length_ofList, Timestamp.length_render ordinary]
    omega

/-! ## Order -/

theorem timeText_lt {e f : Event} (h : e.timestamp < f.timestamp) : e.timeText < f.timeText := by
  obtain ⟨m, made, ordinary, instant⟩ := Timestamp.exists_moment? e.timestamp
  obtain ⟨k, madeLater, ordinaryLater, instantLater⟩ := Timestamp.exists_moment? f.timestamp
  have earlier : m.instant < k.instant := by
    rw [instant, instantLater]
    exact_mod_cast UInt64.lt_iff_toNat_lt.mp h
  have texts := Timestamp.Moment.render_lt_of_before ordinary ordinaryLater
    (Timestamp.Moment.before_of_instant_lt ordinary ordinaryLater earlier)
  rw [timeText, timeText, Timestamp.render_eq made, Timestamp.render_eq madeLater, String.lt_iff_toList_lt,
    String.toList_ofList, String.toList_ofList]
  exact texts

/-- **Texts tell readings apart.** -/
theorem timeText_eq_iff {e f : Event} : e.timeText = f.timeText ↔ e.timestamp = f.timestamp := by
  constructor
  · intro same
    -- One text denotes one instant.
    have denoted := e.showsTime_timeText.exact
    rw [same, f.showsTime_timeText.exact] at denoted
    exact UInt64.toNat_inj.mp (Int.ofNat.inj (Option.some.inj denoted)).symm
  · intro same
    rw [timeText, timeText, same]

/-- **Texts are in the order of readings.** -/
theorem timeText_lt_iff {e f : Event} : e.timeText < f.timeText ↔ e.timestamp < f.timestamp := by
  constructor
  · intro before
    rcases Nat.lt_trichotomy e.timestamp.toNat f.timestamp.toNat with earlier | same | later
    · exact UInt64.lt_iff_toNat_lt.mpr earlier
    · rw [timeText_eq_iff.mpr (UInt64.toNat_inj.mp same)] at before
      exact absurd before (lt_irrefl _)
    · exact absurd before (lt_asymm (timeText_lt (UInt64.lt_iff_toNat_lt.mpr later)))
  · exact timeText_lt

end Event

/-- **Exported times are exact and in order**: every text denotes its event's clock reading in UTC, two texts are
    the same only for the same reading, and the smaller one is that of the earlier reading. -/
theorem exportedTimes_sorted (e f : Event) :
    ∃ s t, e.ShowsTime s ∧ f.ShowsTime t ∧ (s = t ↔ e.timestamp = f.timestamp) ∧
      (s < t ↔ e.timestamp < f.timestamp) :=
  ⟨e.timeText, f.timeText, e.showsTime_timeText, f.showsTime_timeText, Event.timeText_eq_iff,
    Event.timeText_lt_iff⟩

/-- The day after the last nanosecond of a day has the larger text, and the shorter one. -/
example : String.ofList (Timestamp.render 1709164799999999999) = "2024-02-28T23:59:59.999999999+00:00" ∧
    String.ofList (Timestamp.render 1709164800000000000) = "2024-02-29T00:00:00+00:00" := by decide +kernel

end ProbeRecorder
