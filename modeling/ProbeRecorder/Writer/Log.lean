import ProbeRecorder.Sink
import ProbeRecorder.Writer.Drain

/-!
# `ProbeRecorder.Writer.Log` — the durable log

Entries are queued without waiting and stored later, in batches, when somebody asks for it.

A worker that has not started yet keeps what is asked of it until it does; such a call belongs behind the start,
where the worker gets to it. Before the start, `flush` and `shutdown` say what becomes of a call that nobody
waits for: nothing, and the answer counts for nothing.

## Contents
- **Writer.** `LogWriter` and its `WriterPhase`.
- **Entries.** `record`.
- **Life.** `start`, `flush`, `shutdown`.
- **Statistics.** `WriterStats`.
-/

namespace ProbeRecorder

/-- Whether somebody works on the queue. -/
inductive WriterPhase where
  | idle
  | running
  | stopped
  deriving DecidableEq, Repr

/-- **Writer.** -/
structure LogWriter where
  phase : WriterPhase
  pipeline : Pipeline

/-- What a writer is made with. -/
structure WriterSettings where
  batchSize : Nat
  queueCapacity : Nat
  level : CompressionLevel
  deriving DecidableEq, Repr

namespace LogWriter

/-- **A writer over a disk**, which is opened for it. -/
def new (settings : WriterSettings) (disk : Disk) : Except RecorderError LogWriter :=
  match disk.prepare with
  | (.error e, _) => .error e
  | (.ok (), disk) => .ok {
      phase := .idle
      pipeline := {
        batchSize := max settings.batchSize 1
        queue := .new settings.queueCapacity
        buffer := []
        archive := { level := settings.level, disk := disk } } }

/-! ## Entries -/

/-- **Queues an entry.** -/
def record (w : LogWriter) (e : Entry) : Except RecorderError Unit × LogWriter :=
  let (result, queue) := w.pipeline.queue.push e
  let w := { w with pipeline := { w.pipeline with queue := queue } }
  match result with
  | .ok () => (.ok (), w)
  | .error _ => (.error ⟨.sink, "Event queue full"⟩, w)

/-! ## Life -/

/-- **Starts the writer**, once. -/
def start (w : LogWriter) : Except RecorderError Unit × LogWriter :=
  match w.phase with
  | .idle => (.ok (), { w with phase := .running })
  | _ => (.error ⟨.recording, "Event log writer already started"⟩, w)

section Draining

variable [Compression]

/-- Works on the queue, and is in the given phase afterwards. -/
def drainInto (w : LogWriter) (phase : WriterPhase) : Except RecorderError Unit × LogWriter :=
  let (result, pipeline) := w.pipeline.drain
  (result, ⟨phase, pipeline⟩)

/-- **Stores what is queued.** A worker that was stopped does not answer. -/
def flush (w : LogWriter) : Except RecorderError Unit × LogWriter :=
  match w.phase with
  | .running => w.drainInto .running
  | _ => (.error ⟨.recording, "Event log writer not running"⟩, w)

/-- **Stores what is queued and stops.** A worker that was stopped has nothing to stop. One whose writer is
    dropped does the same, and tells nobody. -/
def shutdown (w : LogWriter) : Except RecorderError Unit × LogWriter :=
  match w.phase with
  | .running => w.drainInto .stopped
  | _ => (.ok (), w)

end Draining

/-- The disk the writer works on. -/
def disk (w : LogWriter) : Disk := w.pipeline.archive.disk

/-- The writer after its disk was changed from outside. -/
def withDisk (w : LogWriter) (disk : Disk) : LogWriter :=
  { w with pipeline := { w.pipeline with archive := { w.pipeline.archive with disk := disk } } }

end LogWriter

/-! ## Statistics -/

/-- **Statistics** of a writer. The counters have no bound; those of a running writer are words of 64 bits. -/
structure WriterStats where
  queued : Nat
  dropped : Nat
  flushed : Nat
  batches : Nat
  bytes : Nat
  flushFailures : Nat
  classFailures : Nat
  deriving DecidableEq, Repr

def LogWriter.stats (w : LogWriter) : WriterStats :=
  let q := w.pipeline.queue
  let a := w.pipeline.archive
  ⟨q.accepted, q.rejected, a.entriesFlushed, a.batchesFlushed, a.bytesWritten, a.flushFailures,
    a.classFailures⟩

/-- The time a batch took on average; zero before the first one. -/
def averageFlushTime (batches time : Nat) : Nat := time / batches

end ProbeRecorder
