import ProbeRecorder.Correlation
import ProbeRecorder.Exclusion.Index
import ProbeRecorder.Identity.Map
import ProbeRecorder.Payload
import ProbeRecorder.Policy.Capture
import ProbeRecorder.Policy.Mode
import ProbeRecorder.Sink

/-!
# `ProbeRecorder.Recorder.State` — the recorder between two calls

## Contents
- **Statistics.** `RecorderStats`, and the counters published under a name.
- **State.** `Recorder`; `Moment`, the outside world during one call.
- **Suppression.** `Recorder.guarded`, `suppress`, `release`.
- **Emission.** `emit` and the kinds of events that observations lead to.
- **Exclusion.** `isEligible`, `excludeProbe`, `fail`.
-/

namespace ProbeRecorder

/-! ## Statistics -/

/-- **Statistics** of a recorder. The counters have no bound; those of a running recorder are words of
    64 bits. -/
structure RecorderStats where
  /-- Events the sink accepted. -/
  emitted : Nat := 0
  /-- Of those, the ones with a serialized value. -/
  serialized : Nat := 0
  /-- Of those, the ones that name a value and carry nothing. -/
  identityOnly : Nat := 0
  serializationFailures : Nat := 0
  /-- Probes that lost their values because of a type. -/
  probesExcluded : Nat := 0
  sinkFailures : Nat := 0
  asyncAnchors : Nat := 0
  asyncCompletions : Nat := 0
  deriving DecidableEq, Repr

namespace RecorderStats

/-- All counters by name. -/
def named (s : RecorderStats) : List (String × Nat) :=
  [("events_emitted", s.emitted), ("serialized", s.serialized), ("identity_only", s.identityOnly),
   ("serialization_failures", s.serializationFailures), ("probes_excluded", s.probesExcluded),
   ("sink_failures", s.sinkFailures), ("async_anchors", s.asyncAnchors),
   ("async_completions", s.asyncCompletions)]

/-- The counters published as metrics; one that was never raised does not exist. -/
def metrics (s : RecorderStats) : List (String × Nat) :=
  [("probelog_events_total", s.emitted), ("probelog_serialized_total", s.serialized),
   ("probelog_serialization_failures_total", s.serializationFailures),
   ("probelog_probes_excluded_total", s.probesExcluded),
   ("probelog_sink_failures_total", s.sinkFailures),
   ("probelog_async_completions_total", s.asyncCompletions)].filter fun metric => metric.2 != 0

end RecorderStats

/-! ## State -/

/-- **The outside world** during one call: which values live, time and thread, and the clock that
    correlation ids are taken from. -/
structure Moment where
  heap : Heap
  stamp : Stamp
  reading : Int64

/-- **Recorder.** -/
structure Recorder where
  policy : CapturePolicy
  mode : RecordingMode
  codec : Codec
  exclusions : ExclusionIndex
  /-- Events are accepted and not kept. -/
  discards : Bool
  sink : Sink
  identities : IdentityMap
  /-- Probes whose values are serialized. -/
  recordable : FiniteSet ProbeId
  /-- Values that failed to serialize once. -/
  skipped : FiniteSet ObjectId
  probes : FiniteMap ProbeId Probe
  classes : FiniteSet ClassId
  anchors : AnchorTable
  clock : CorrelationClock
  stats : RecorderStats
  /-- Calls of the thread at work return at once. Each thread has this flag to itself; everything else is
      shared. -/
  suppressed : Bool

namespace Recorder

/-! ## Suppression -/

/-- **Runs the recorder's own work** with recording suppressed, and leaves the flag as it was. -/
def guarded (r : Recorder) (work : Recorder → Recorder) : Recorder :=
  { work { r with suppressed := true } with suppressed := r.suppressed }

/-- Suppresses recording; gives back what to release it with. -/
def suppress (r : Recorder) : Bool × Recorder := (r.suppressed, { r with suppressed := true })

/-- **Releases**: the flag becomes what it was when recording was suppressed. -/
def release (r : Recorder) (before : Bool) : Recorder := { r with suppressed := before }

/-! ## Emission -/

/-- Counts an accepted event. -/
def countEmitted (r : Recorder) : Recorder :=
  { r with stats := { r.stats with emitted := r.stats.emitted + 1 } }

def countSinkFailure (r : Recorder) : Recorder :=
  { r with stats := { r.stats with sinkFailures := r.stats.sinkFailures + 1 } }

/-- **Hands an event to the sink**; says whether it was accepted. -/
def emit (r : Recorder) (e : Event) : Bool × Recorder :=
  if r.discards then (true, r.countEmitted)
  else match r.sink.append e with
    | (.ok (), sink) => (true, { r with sink := sink }.countEmitted)
    | (.error _, sink) => (false, { r with sink := sink }.countSinkFailure)

/-- An event that names a value and carries nothing. -/
def emitIdentity (r : Recorder) (m : Moment) (probe : ProbeId) (object : ObjectId) : Recorder :=
  match r.emit (.ordinary m.stamp probe object none) with
  | (true, r) => { r with stats := { r.stats with identityOnly := r.stats.identityOnly + 1 } }
  | (false, r) => r

/-- An event that carries a serialized value. -/
def emitSerialized (r : Recorder) (m : Moment) (probe : ProbeId) (object : ObjectId)
    (payload : Bytes) : Recorder :=
  match r.emit (.ordinary m.stamp probe object (some payload)) with
  | (true, r) => { r with stats := { r.stats with serialized := r.stats.serialized + 1 } }
  | (false, r) => r

def countSerializationFailure (r : Recorder) : Recorder :=
  { r with stats := { r.stats with serializationFailures := r.stats.serializationFailures + 1 } }

/-! ## Exclusion -/

/-- **A value is serialized** when everything allows it: mode, policy, probe and value. -/
def isEligible (r : Recorder) (probe : ProbeId) (object : ObjectId) : Bool :=
  r.mode.serializes && r.policy.allows .object && decide (probe ∈ r.recordable)
    && !decide (object ∈ r.skipped)

/-- Values at the probe are not serialized any more, because of a type. -/
def excludeProbe (r : Recorder) (probe : ProbeId) : Recorder :=
  if probe ∈ r.recordable then
    { r with
      recordable := r.recordable.remove probe
      stats := { r.stats with probesExcluded := r.stats.probesExcluded + 1 } }
  else r

/-- Neither the probe nor the value is tried again; the absent value is no value. -/
def giveUp (r : Recorder) (probe : ProbeId) (object : ObjectId) : Recorder :=
  { r with
    recordable := r.recordable.remove probe
    skipped := if object = nullObject then r.skipped else r.skipped.insert object }

/-- **A failed serialization**: it is not tried again, and the event says why. -/
def fail (r : Recorder) (m : Moment) (probe : ProbeId) (object : ObjectId) (e : RecorderError) :
    Recorder :=
  let r := (r.giveUp probe object).countSerializationFailure
  (r.emit (.ordinary m.stamp probe object (some (Payload.failure e.message)))).2

/-- What an attempt to serialize leads to. -/
def deliver (r : Recorder) (m : Moment) (probe : ProbeId) (object : ObjectId) :
    Except RecorderError Bytes → Recorder
  | .ok payload => r.emitSerialized m probe object payload
  | .error e => r.fail m probe object e

end Recorder
end ProbeRecorder
