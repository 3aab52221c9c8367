import ProbeRecorder.Recorder.State
import ProbeRecorder.Subject.Script

/-!
# `ProbeRecorder.Recorder.Observe` — recording values

Every call is transparent: the observed program gets back what it handed over, whatever happens here.
While the recorder works, calls return at once, so that serialization code which is itself instrumented
records nothing.

## Contents
- **Scalars.** `Recorder.recordScalar`.
- **Calls.** `Recorder.openCall`, the start of an asynchronous call.
- **Values.** `Recorder.recordAbsent` and `Subject.record`, with `Script.run` for the code that
  serialization runs.
-/

namespace ProbeRecorder

namespace Recorder

/-- Does the work of a call, unless recording is suppressed. -/
def unlessSuppressed (r : Recorder) (work : Recorder → Recorder) : Recorder :=
  if r.suppressed then r else r.guarded work

/-! ## Scalars -/

/-- **Records a scalar.** -/
def recordScalar (r : Recorder) (m : Moment) (probe : ProbeId) (s : Scalar) : Recorder :=
  r.unlessSuppressed fun r => (r.emit (.ordinary m.stamp probe s.encode none)).2

/-! ## Calls -/

/-- Writes the anchor of a call and gives what its outcomes are written under. The call counts as open
    even when the sink refuses the anchor. -/
def anchorCall (r : Recorder) (m : Moment) (probe : ProbeId) (object : ObjectId) :
    OpenCall × Recorder :=
  let call : OpenCall := ⟨r.clock.next m.reading, r.anchors.anchorOf probe⟩
  let r := { r with clock := r.clock.advance m.reading }
  match r.emit (.anchor m.stamp probe object call.correlation) with
  | (true, r) =>
    (call, { r with stats := { r.stats with asyncAnchors := r.stats.asyncAnchors + 1 } })
  | (false, r) => (call, r)

/-- The work of `openCall`. -/
def startCall (r : Recorder) (m : Moment) (probe : ProbeId) (typeName : String) :
    Option OpenCall × Recorder :=
  let (object, identities) := r.identities.issue
  let r := { r with identities := identities }
  if !r.isEligible probe object then (none, r.emitIdentity m probe object)
  else if r.exclusions.isExcluded typeName then
    (none, (r.excludeProbe probe).emitIdentity m probe object)
  else
    let (call, r) := r.anchorCall m probe object
    (some call, r)

/-- **Opens an asynchronous call** for a producer of the named type. A producer whose outcomes will not
    be written is only identified. -/
def openCall (r : Recorder) (m : Moment) (probe : ProbeId) (typeName : String) :
    Option OpenCall × Recorder :=
  if r.suppressed then (none, r)
  else
    let (call, after) := { r with suppressed := true }.startCall m probe typeName
    (call, { after with suppressed := r.suppressed })

/-! ## Values -/

/-- **Records an absent value.** -/
def recordAbsent (r : Recorder) (m : Moment) (probe : ProbeId) : Recorder :=
  r.unlessSuppressed fun r =>
    if r.isEligible probe nullObject then
      r.deliver m probe nullObject (r.codec.encode .null)
    else r.emitIdentity m probe nullObject

/-- The payload that serialization leads to. An unresolved completion is no failure. -/
def payloadOf (codec : Codec) (shape : Shape) (outcome : Outcome) : Except RecorderError Bytes :=
  match shape, outcome with
  | .bytes content, _ => .ok content
  | .completion, .unresolved => .ok Payload.unavailable
  | _, o => o.structure.bind codec.encode

/-- The work of `Subject.record`; `serialize` is what the serialization code does to the recorder, and
    is left out for values that are encoded already. -/
def observe (r : Recorder) (m : Moment) (probe : ProbeId) (allocation : Allocation) (typeName : String)
    (shape : Shape) (serialize : Recorder → Recorder) (outcome : Outcome) : Recorder :=
  let (object, identities) := r.identities.identify m.heap allocation typeName
  let r := { r with identities := identities }
  if !r.isEligible probe object then r.emitIdentity m probe object
  else if shape.isOpaque || r.exclusions.isExcluded typeName then
    (r.excludeProbe probe).emitIdentity m probe object
  else
    let payload := payloadOf r.codec shape outcome
    match shape with
    | .bytes _ => r.deliver m probe object payload
    | _ => (serialize r).deliver m probe object payload

end Recorder

mutual

/-- **Runs serialization code**, for what it does to the recorder. -/
def Script.run (m : Moment) : Script → Recorder → Recorder
  | .done _, r => r
  | .call nested rest, r => rest.run m (nested.perform m r)

/-- A call of the recorder. -/
def NestedCall.perform (m : Moment) : NestedCall → Recorder → Recorder
  | .absent probe, r => r.recordAbsent m probe
  | .value probe subject, r => subject.record m probe r
  | .scalar probe s, r => r.recordScalar m probe s
  | .producer probe typeName, r => (r.openCall m probe typeName).2

/-- **Records a value.** -/
def Subject.record (m : Moment) (probe : ProbeId) : Subject → Recorder → Recorder
  | .mk allocation typeName shape script, r =>
    r.unlessSuppressed fun r =>
      r.observe m probe allocation typeName shape (fun r => script.run m r) script.outcome

end

namespace Recorder

/-- **Records a reference**, to a value or to nothing. -/
def recordValue (r : Recorder) (m : Moment) (probe : ProbeId) : Option Subject → Recorder
  | some subject => subject.record m probe r
  | none => r.recordAbsent m probe

end Recorder
end ProbeRecorder
