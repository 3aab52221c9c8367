import ProbeRecorder.Queue
import ProbeRecorder.Writer.Archive

/-!
# `ProbeRecorder.Writer.Drain` — from the queue into batches

Entries are moved into a buffer until it makes a batch; what is left at the end makes a shorter one.

## Contents
- **Pipeline.** `Pipeline`: queue, buffer and archive.
- **Steps.** `Pipeline.fill`, `Pipeline.storeBuffer`.
- **Drain.** `Pipeline.drain`, which ends with the first batch that cannot be stored.
-/

namespace ProbeRecorder

/-- **Pipeline** from the queue to the disk. -/
structure Pipeline where
  batchSize : Nat
  queue : EntryQueue
  /-- Entries taken from the queue and not stored yet. -/
  buffer : List Entry
  archive : Archive

namespace Pipeline

/-- Moves entries into the buffer, at most as many as make a batch; says how many they were. -/
def fill (p : Pipeline) : Nat × Pipeline :=
  let (moved, queue) := p.queue.drain (p.batchSize - p.buffer.length)
  (moved.length, { p with queue := queue, buffer := p.buffer ++ moved })

theorem fill_queue_size (p : Pipeline) : p.fill.2.queue.size + p.fill.1 = p.queue.size := by
  simp only [fill, EntryQueue.drain, EntryQueue.size, List.length_drop, List.length_take]
  omega

section Storing

variable [Compression]

/-- Stores what is in the buffer, which is empty afterwards. -/
def storeBuffer (p : Pipeline) : Except RecorderError Unit × Pipeline :=
  if p.buffer.isEmpty then (.ok (), p)
  else
    let (result, archive) := p.archive.store p.buffer
    (result, { p with buffer := [], archive := archive })

theorem storeBuffer_queue (p : Pipeline) : p.storeBuffer.2.queue = p.queue := by
  unfold storeBuffer
  split <;> rfl

/-- The buffer makes a batch, or nothing more comes to make it one. -/
def isDue (p : Pipeline) (moved : Nat) : Bool :=
  p.batchSize ≤ p.buffer.length || (moved == 0 && !p.buffer.isEmpty)

/-- Stores the buffer if it is due. -/
def storeIfDue (p : Pipeline) (moved : Nat) : Except RecorderError Unit × Pipeline :=
  if p.isDue moved then p.storeBuffer else (.ok (), p)

theorem storeIfDue_queue (p : Pipeline) (moved : Nat) : (p.storeIfDue moved).2.queue = p.queue := by
  unfold storeIfDue
  split
  · exact p.storeBuffer_queue
  · rfl

/-- **Drain.** Entries are stored in batches until the queue is empty, or until a batch fails. -/
def drain (p : Pipeline) : Except RecorderError Unit × Pipeline :=
  match h : p.fill.2.storeIfDue p.fill.1 with
  | (.error e, after) => (.error e, after)
  | (.ok (), after) =>
    if _moved : p.fill.1 = 0 then (.ok (), after)
    else
      have : after.queue.size < p.queue.size := by
        have kept := p.fill.2.storeIfDue_queue p.fill.1
        have := p.fill_queue_size
        simp only [h] at kept
        rw [kept]
        omega
      after.drain
  termination_by p.queue.size

end Storing
end Pipeline
end ProbeRecorder
