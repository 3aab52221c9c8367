import ProbeRecorder.Correlation
import ProbeRecorder.Export.Format

/-!
# `ProbeRecorder.Export.Calls` — asynchronous calls and their outcomes

An event has a spot, its probe and its value. The outcomes of a call are written at one spot: under the
anchor of its probe, with its correlation id as value.

## Contents
- **Calls.** `Call`.
- **Spots.** `Event.spot`; `eventsBySpot`, the events of a log grouped by it.
- **Join.** `correlate`, anchors with the other events at the spot of their outcomes.
- **Text.** `exportCalls`.
-/

namespace ProbeRecorder

/-- **An asynchronous call.** -/
structure Call where
  probe : ProbeId
  anchor : ProbeId
  object : ObjectId
  correlation : Int64
  started : UInt64
  /-- Outcomes in the order of the log; none while the call is pending. -/
  outcomes : List Json

/-! ## Spots -/

/-- Where an event stands in the sense of the join. -/
def Event.spot (e : Event) : ProbeId × Int64 := (e.probe, e.value)

/-- Puts an event behind the others at its spot. -/
def addToSpot (spots : FiniteMap (ProbeId × Int64) (List (Event × Nat))) (x : Event × Nat) :
    FiniteMap (ProbeId × Int64) (List (Event × Nat)) :=
  spots.put x.1.spot ((spots.get? x.1.spot).getD [] ++ [x])

/-- **The events of a log by spot**, in the order of the log. Each has its position, which tells it from
    events that are equal to it. -/
def eventsBySpot (events : List Event) : FiniteMap (ProbeId × Int64) (List (Event × Nat)) :=
  events.zipIdx.foldl addToSpot .empty

/-! ## Join -/

namespace Call

/-- What an event contributes to the outcomes of a call. -/
def outcomeOf (e : Event) : Json := (e.payload.map renderPayload).getD .null

/-- The call that the event at a position starts, if it is an anchor. Its outcomes are the events at their
    spot, but not the anchor itself. -/
def ofAnchor? (table : AnchorTable) (spots : FiniteMap (ProbeId × Int64) (List (Event × Nat)))
    (x : Event × Nat) : Option Call := do
  let correlation ← x.1.correlation?
  let anchor := table.anchorOf x.1.probe
  let found := (spots.get? (anchor, correlation)).getD []
  return {
    probe := x.1.probe
    anchor := anchor
    object := x.1.value
    correlation := correlation
    started := x.1.timestamp
    outcomes := (found.filter fun y => y.2 ≠ x.2).map fun y => outcomeOf y.1 }

def toJson (c : Call) : Json :=
  .obj [("probe_id", .int c.probe.toInt), ("anchor_probe_id", .int c.anchor.toInt),
    ("object_id", .int c.object.toInt), ("correlation_id", .int c.correlation.toInt),
    ("started_ns", .int c.started.toNat), ("outcomes", .arr c.outcomes)]

end Call

/-- **Joins** every anchor with its outcomes. -/
def correlate (table : AnchorTable) (events : List Event) : List Call :=
  events.zipIdx.filterMap (Call.ofAnchor? table (eventsBySpot events))

/-- **Exports calls.** -/
def exportCalls (format : ExportFormat) (calls : List Call) : List Char :=
  format.render (calls.map Call.toJson)

end ProbeRecorder
