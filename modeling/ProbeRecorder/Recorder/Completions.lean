import ProbeRecorder.Recorder.Observe

/-!
# `ProbeRecorder.Recorder.Completions` — outcomes of asynchronous calls

## Contents
- **Outcomes.** `CallOutcome`, a value to be serialized or an error.
- **Writing.** `Recorder.writeCompletion`.
-/

namespace ProbeRecorder

/-- **The error a call ended with**: its type, and the text it is shown as, or the panic of showing it. -/
structure CallError where
  typeName : String
  shown : Except (Option String) String

/-- The text of an error; a panic while it was shown is text too. -/
def CallError.text (e : CallError) : String :=
  match e.shown with
  | .ok text => text
  | .error panic => (panicError panic).message

/-- **One outcome of a call.** -/
inductive CallOutcome where
  | value (script : Script)
  | error (e : CallError)

namespace Recorder

/-- What serializing an outcome does to the recorder. -/
def runOutcome (m : Moment) (outcome : CallOutcome) (r : Recorder) : Recorder :=
  match outcome with
  | .value script => script.run m r
  | .error _ => r

/-- The payload of an outcome, and the recorder after it was made. A value that cannot be serialized is
    counted; neither its probe nor the value is given up. -/
def outcomePayload (m : Moment) (outcome : CallOutcome) (r : Recorder) : Bytes × Recorder :=
  let r := runOutcome m outcome r
  match outcome with
  | .value script =>
    match script.outcome.structure.bind r.codec.encode with
    | .ok payload => (payload, r)
    | .error e => (Payload.failure e.message, r.countSerializationFailure)
  | .error e => (Payload.asyncError e.typeName e.text, r)

/-- **Writes an outcome** under the anchor and the correlation id of its call. It is written also while
    recording is suppressed. -/
def writeCompletion (r : Recorder) (m : Moment) (call : OpenCall) (outcome : CallOutcome) : Recorder :=
  r.guarded fun r =>
    let (payload, r) := outcomePayload m outcome r
    match r.emit (.ordinary m.stamp call.anchor call.correlation (some payload)) with
    | (true, r) =>
      { r with stats := { r.stats with asyncCompletions := r.stats.asyncCompletions + 1 } }
    | (false, r) => r

end Recorder
end ProbeRecorder
