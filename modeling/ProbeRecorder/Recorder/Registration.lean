import ProbeRecorder.Recorder.State

/-!
# `ProbeRecorder.Recorder.Registration` — what the recorder is told about probes

## Contents
- **Registration.** `Recorder.registerBatch`.
- **Marking.** `Recorder.markRecordable`.
- **Looking up.** `isRecordable`, `isSkipped`, `latestInstance`.
-/

namespace ProbeRecorder.Recorder

/-- **Makes probes recordable.** -/
def markRecordable (r : Recorder) (probes : List ProbeId) : Recorder :=
  { r with recordable := r.recordable.insertAll probes }

/-- The probes of a batch whose values can be serialized. -/
def referenceProbes (b : WeaveBatch) : List ProbeId :=
  (b.probes.filter fun p => p.valueKind.isReference).map Probe.id

/-- Takes over the probes of a batch. -/
def adopt (r : Recorder) (b : WeaveBatch) (anchor : ProbeId) : Recorder :=
  { r.markRecordable (referenceProbes b) with
    probes := b.probes.foldl (fun m p => m.put p.id p) r.probes
    classes := r.classes.insert b.classId
    anchors := r.anchors.register anchor b.probeIds }

/-- The error of a registration that the sink refused. -/
def refusedRegistration (b : WeaveBatch) (e : RecorderError) : RecorderError :=
  ⟨.sink, "Failed to register class " ++ b.className ++ ": " ++ e.message⟩

/-- Tells the sink about a batch. If it refuses, the class may be registered again. -/
def announce (r : Recorder) (b : WeaveBatch) : Except RecorderError Unit × Recorder :=
  if r.discards then (.ok (), r)
  else match r.sink.register b.classId b.probeIds with
    | (.ok (), sink) => (.ok (), { r with sink := sink })
    | (.error e, sink) =>
      (.error (refusedRegistration b e), { r with sink := sink, classes := r.classes.remove b.classId })

/-- **Registers the probes of a class.** An empty batch and a class known already change nothing. -/
def registerBatch (r : Recorder) (b : WeaveBatch) : Except RecorderError Unit × Recorder :=
  match b.anchor? with
  | none => (.ok (), r)
  | some anchor =>
    if b.classId ∈ r.classes then (.ok (), r)
    else (r.adopt b anchor).announce b

def isRecordable (r : Recorder) (probe : ProbeId) : Bool := decide (probe ∈ r.recordable)

def isSkipped (r : Recorder) (object : ObjectId) : Bool := decide (object ∈ r.skipped)

/-- **The latest living instance of a type.** -/
def latestInstance (r : Recorder) (heap : Heap) (typeName : String) : Option Allocation × Recorder :=
  let (found, identities) := r.identities.latestInstance heap typeName
  (found, { r with identities := identities })

end ProbeRecorder.Recorder
