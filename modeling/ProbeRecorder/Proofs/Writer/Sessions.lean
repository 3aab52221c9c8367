import ProbeRecorder.Writer.Log
import ProbeRecorder.Proofs.Writer.Drain

/-!
# `ProbeRecorder.Proofs.Writer.Sessions` — what is asked of one writer

A session is what is asked of one writer, while the disk refuses whatever batches and rows it likes. Beside the
writer it notes which entries were accepted and which batches were offered to the disk. The disk may be
another one before each call: other writers work on it too.

## Contents
- **Writers.** What the calls of a writer do to its queue (`LogWriter.record_cases`).
- **Calls.** `LogCall`; `LogSession.act`, with what a call accepts and offers (`LogSession.act_accepted`,
  `LogSession.act_tried`).
- **Books.** `LogSession.Accounts`: what was accepted is offered or queued, and counted.
- **Soundness.** `LogSession.Sound`, kept by every call (`LogSession.Sound.act`); a flush that succeeds
  leaves nothing (`LogSession.Sound.queue_of_flush`).
-/

namespace ProbeRecorder

/-! ## Writers -/

namespace LogWriter

/-- The writer with another queue. -/
def withQueue (w : LogWriter) (queue : EntryQueue) : LogWriter :=
  { w with pipeline := { w.pipeline with queue := queue } }

/-- **Recording** puts an entry behind the others, or counts it as dropped. -/
theorem record_cases (w : LogWriter) (e : Entry) :
    (w.record e = (.ok (), w.withQueue { w.pipeline.queue with
        entries := w.pipeline.queue.entries ++ [e], accepted := w.pipeline.queue.accepted + 1 })) ∨
      ∃ error, w.record e = (.error error, w.withQueue { w.pipeline.queue with
        rejected := w.pipeline.queue.rejected + 1 }) := by
  unfold record EntryQueue.push
  by_cases full : w.pipeline.queue.isFull = true
  · rw [if_pos full]
    exact .inr ⟨_, rfl⟩
  · rw [if_neg full]
    exact .inl rfl

/-- Starting concerns the worker only. -/
theorem exists_phase_of_start (w : LogWriter) : ∃ phase, w.start.2 = { w with phase := phase } := by
  rw [start]
  split
  · exact ⟨.running, rfl⟩
  · exact ⟨w.phase, rfl⟩

section Draining

variable [Compression]

theorem flush_of_running {w : LogWriter} (h : w.phase = .running) : w.flush = w.drainInto .running := by
  rw [flush, h]

theorem shutdown_of_running {w : LogWriter} (h : w.phase = .running) :
    w.shutdown = w.drainInto .stopped := by
  rw [shutdown, h]

theorem flush_of_not_running {w : LogWriter} (h : w.phase ≠ .running) :
    w.flush = (.error ⟨.recording, "Event log writer not running"⟩, w) := by
  rw [flush]
  split
  · exact absurd ‹_› h
  · rfl

theorem shutdown_of_not_running {w : LogWriter} (h : w.phase ≠ .running) : w.shutdown = (.ok (), w) := by
  rw [shutdown]
  split
  · exact absurd ‹_› h
  · rfl

end Draining
end LogWriter

/-! ## Calls -/

/-- What is asked of a writer. The worker also drains on its own, by its timer or for a full batch: that is
    a `wake`. A call for a worker that has not started yet stands where the worker gets to it. A worker whose
    writer is dropped drains once more and stops: that is a `shutdown`. -/
inductive LogCall where
  | start
  | record (e : Entry)
  | wake
  | flush
  | shutdown

/-- The entry that is recorded, if one is. -/
def LogCall.recorded? : LogCall → Option Entry
  | record e => some e
  | _ => none

/-- One writer, the entries that it accepted and the batches that it offered to the disk. -/
structure LogSession where
  writer : LogWriter
  accepted : List Entry
  tried : List Offer

namespace LogSession

/-- A writer nothing was asked of yet. -/
def fresh (writer : LogWriter) : LogSession := ⟨writer, [], []⟩

def queue (s : LogSession) : EntryQueue := s.writer.pipeline.queue

def disk (s : LogSession) : Disk := s.writer.disk

/-- **The session over another disk**, or over the same one after others have worked on it. -/
def onDisk (s : LogSession) (disk : Disk) : LogSession := { s with writer := s.writer.withDisk disk }

/-- What a worker at work would offer now. -/
def pending (s : LogSession) : List Offer :=
  match s.writer.phase with
  | .running => offers s.writer.pipeline.batchSize s.writer.disk.batchFaults
      s.writer.pipeline.waiting
  | _ => []

theorem pending_of_not_running {s : LogSession} (h : s.writer.phase ≠ .running) : s.pending = [] := by
  rw [pending]
  split
  · exact absurd ‹_› h
  · rfl

/-- Asks for a drain. -/
def drained (s : LogSession) (answer : Except RecorderError Unit × LogWriter) :
    Except RecorderError Unit × LogSession :=
  (answer.1, { s with writer := answer.2, tried := s.tried ++ s.pending })

/-- Where no worker is at work, asking for a drain changes nothing. -/
theorem drained_of_not_running {s : LogSession} (h : s.writer.phase ≠ .running)
    (result : Except RecorderError Unit) : (s.drained (result, s.writer)).2 = s := by
  rw [drained, pending_of_not_running h, List.append_nil]

/-- The entry that a call puts into the queue. -/
def accepting (s : LogSession) : LogCall → List Entry
  | .record e =>
    match s.writer.record e with
    | (.ok (), _) => [e]
    | (.error _, _) => []
  | _ => []

/-- The batches that a call offers to the disk. -/
def offering (s : LogSession) : LogCall → List Offer
  | .wake | .flush | .shutdown => s.pending
  | _ => []

variable [c : Compression]

/-- **One call.** -/
def act (s : LogSession) : LogCall → Except RecorderError Unit × LogSession
  | .start => (s.writer.start.1, { s with writer := s.writer.start.2 })
  | .record e =>
    match s.writer.record e with
    | (.ok (), writer) => (.ok (), { s with writer := writer, accepted := s.accepted ++ [e] })
    | (.error error, writer) => (.error error, { s with writer := writer })
  | .wake => s.drained s.writer.flush
  | .flush => s.drained s.writer.flush
  | .shutdown => s.drained s.writer.shutdown

theorem act_accepted (s : LogSession) (call : LogCall) :
    (s.act call).2.accepted = s.accepted ++ s.accepting call := by
  cases call with
  | record e =>
      rw [act, accepting]
      rcases s.writer.record_cases e with pushed | ⟨error, dropped⟩
      · rw [pushed]
      · rw [dropped]
        exact (List.append_nil _).symm
  | _ => exact (List.append_nil _).symm

theorem act_tried (s : LogSession) (call : LogCall) : (s.act call).2.tried = s.tried ++ s.offering call := by
  cases call with
  | start => exact (List.append_nil _).symm
  | record e =>
      rw [act]
      rcases s.writer.record_cases e with pushed | ⟨error, dropped⟩
      · rw [pushed]
        exact (List.append_nil _).symm
      · rw [dropped]
        exact (List.append_nil _).symm
  | _ => rfl

omit c

/-! ## Books -/

/-- **The books of a session.** What was accepted is what was offered, followed by what is queued; the
    counters count the offers by their fate. -/
structure Accounts (s : LogSession) : Prop where
  kept : s.accepted = offered s.tried ++ s.queue.entries
  queued : s.writer.stats.queued = s.accepted.length
  flushed : s.writer.stats.flushed = (taken s.tried).flatten.length
  batches : s.writer.stats.batches = (taken s.tried).length
  failures : s.writer.stats.flushFailures = (lost s.tried).length
  pieces : ∀ o ∈ s.tried, 0 < o.entries.length ∧ o.entries.length ≤ s.writer.pipeline.batchSize

/-- **Balance**: what was queued is flushed, lost with its batch, or still in the queue. -/
theorem Accounts.balance {s : LogSession} (h : s.Accounts) :
    s.writer.stats.queued =
      s.writer.stats.flushed + (lost s.tried).flatten.length + s.queue.size := by
  rw [h.queued, h.kept, List.length_append, length_offered, h.flushed]
  rfl

/-- What is stored was accepted, in the same order, and each entry once. -/
theorem Accounts.taken_sublist {s : LogSession} (h : s.Accounts) :
    (taken s.tried).flatten.Sublist s.accepted := by
  rw [h.kept]
  exact (flatten_taken_sublist s.tried).trans (List.sublist_append_left _ _)

/-- Where nothing failed and nothing is queued, all that was accepted is stored. -/
theorem Accounts.accepted_eq {s : LogSession} (h : s.Accounts)
    (failures : s.writer.stats.flushFailures = 0) (empty : s.queue.entries = []) :
    s.accepted = (taken s.tried).flatten := by
  have none : lost s.tried = [] := List.length_eq_zero_iff.1 (h.failures ▸ failures)
  rw [flatten_taken none, h.kept, empty, List.append_nil]

/-! ## Soundness -/

/-- **A sound session** keeps its books, and the buffer of its worker is empty between drains. -/
structure Sound (s : LogSession) : Prop where
  accounts : s.Accounts
  ready : s.writer.pipeline.Ready

/-- The buffer does not lie on the disk. -/
theorem ready_onDisk {s : LogSession} (h : s.writer.pipeline.Ready) (disk : Disk) :
    (s.onDisk disk).writer.pipeline.Ready := ⟨h.size, h.buffer⟩

/-- The books do not speak of the disk. -/
theorem Sound.onDisk {s : LogSession} (h : s.Sound) (disk : Disk) : (s.onDisk disk).Sound where
  accounts := ⟨h.accounts.kept, h.accounts.queued, h.accounts.flushed, h.accounts.batches,
    h.accounts.failures, h.accounts.pieces⟩
  ready := ready_onDisk h.ready disk

/-- A new writer begins a sound session. -/
theorem sound_fresh {settings : WriterSettings} {disk : Disk} {writer : LogWriter}
    (made : LogWriter.new settings disk = .ok writer) : (fresh writer).Sound := by
  rw [LogWriter.new] at made
  split at made
  · cases made
  · cases made
    refine ⟨⟨rfl, rfl, rfl, rfl, rfl, fun o ho => absurd ho List.not_mem_nil⟩, ?_, rfl⟩
    show 0 < max settings.batchSize 1
    omega

/-- Between drains, a worker at work would offer pieces of its queue. -/
theorem Sound.pending_eq {s : LogSession} (h : s.Sound) (running : s.writer.phase = .running) :
    s.pending = offers s.writer.pipeline.batchSize s.writer.disk.batchFaults s.queue.entries := by
  rw [pending, running, h.ready.waiting_eq]
  rfl

/-- What fits into one batch, and meets no fault, is one offer. -/
theorem Sound.pending_of_short {s : LogSession} (h : s.Sound) (running : s.writer.phase = .running)
    (some : s.queue.entries ≠ []) (short : s.queue.entries.length ≤ s.writer.pipeline.batchSize)
    (free : s.writer.disk.batchFaults.head?.join = none) : s.pending = [⟨s.queue.entries, true⟩] := by
  rw [h.pending_eq running, offers_of_free ⟨h.ready.size, some⟩ free, List.take_of_length_le short,
    List.drop_of_length_le short, offers_nil]

section Calls

variable [c : Compression] {s : LogSession} {batches : List (List Entry)}

/-- What a worker at work makes of its queue, over a disk that holds some batches. -/
theorem Sound.drains (undoes : c.Undoes) (h : s.Sound) (holds : s.disk.Holds batches)
    (running : s.writer.phase = .running) :
    s.writer.pipeline.Drained batches s.writer.pipeline.drain.1 s.writer.pipeline.drain.2 s.pending := by
  rw [pending, running]
  exact s.writer.pipeline.drain_drained undoes holds h.ready.room

/-- **After a call** a session is sound, the disk holds the batches that it took, and every offer has met its
    fault. -/
structure Left (s after : LogSession) (batches : List (List Entry)) (os : List Offer) : Prop where
  sound : after.Sound
  holds : after.disk.Holds (batches ++ taken os)
  faults : after.disk.batchFaults = s.disk.batchFaults.drop os.length

/-- A drain. -/
theorem Sound.drainInto (undoes : c.Undoes) (h : s.Sound) (holds : s.disk.Holds batches)
    (running : s.writer.phase = .running) (phase : WriterPhase) :
    s.Left (s.drained (s.writer.drainInto phase)).2 batches s.pending := by
  have drains := h.drains undoes holds running
  have ready : s.writer.pipeline.drain.2.Ready := ⟨drains.keeps.size ▸ h.ready.size, drains.buffer⟩
  refine ⟨⟨?_, ready⟩, drains.took.holds, drains.took.faults⟩
  constructor
  · show s.accepted = offered (s.tried ++ s.pending) ++ s.writer.pipeline.drain.2.queue.entries
    -- The buffer is empty before and after, so what waits is what is queued.
    have queue : s.queue.entries = offered s.pending ++ s.writer.pipeline.drain.2.queue.entries := by
      rw [← ready.waiting_eq, ← drains.waiting]
      exact h.ready.waiting_eq.symm
    rw [h.accounts.kept, queue, offered_append, List.append_assoc]
  · exact drains.keeps.accepted.trans h.accounts.queued
  · refine drains.took.flushed.trans ?_
    show s.writer.stats.flushed + _ = (taken (s.tried ++ s.pending)).flatten.length
    rw [h.accounts.flushed, taken_append, List.flatten_append, List.length_append]
  · refine drains.took.stored.trans ?_
    show s.writer.stats.batches + _ = (taken (s.tried ++ s.pending)).length
    rw [h.accounts.batches, taken_append, List.length_append]
  · refine drains.took.failures.trans ?_
    show s.writer.stats.flushFailures + _ = (lost (s.tried ++ s.pending)).length
    rw [h.accounts.failures, lost_append, List.length_append]
  · intro o ho
    show _ ∧ _ ≤ s.writer.pipeline.drain.2.batchSize
    rw [drains.keeps.size]
    rcases List.mem_append.1 ho with ho | ho
    · exact h.accounts.pieces o ho
    · rw [pending, running] at ho
      exact length_of_mem_offers ho

omit c in
/-- A session without a worker at work, asked for a drain. -/
theorem Sound.left_of_idle [Compression] (h : s.Sound) (holds : s.disk.Holds batches)
    (idle : s.writer.phase ≠ .running) : s.Left s batches s.pending := by
  rw [pending_of_not_running idle]
  exact ⟨h, (List.append_nil batches).symm ▸ holds, rfl⟩

/-- A drain that is asked for. -/
theorem Sound.flush (undoes : c.Undoes) (h : s.Sound) (holds : s.disk.Holds batches) :
    s.Left (s.drained s.writer.flush).2 batches s.pending := by
  by_cases running : s.writer.phase = .running
  · rw [LogWriter.flush_of_running running]
    exact h.drainInto undoes holds running .running
  · rw [LogWriter.flush_of_not_running running, drained_of_not_running running]
    exact h.left_of_idle holds running

/-- **Every call.** -/
theorem Sound.act (undoes : c.Undoes) (h : s.Sound) (holds : s.disk.Holds batches) (call : LogCall) :
    s.Left (s.act call).2 batches (s.offering call) := by
  have books := h.accounts
  have same : s.disk.Holds (batches ++ taken []) := (List.append_nil batches).symm ▸ holds
  rw [LogSession.act.eq_def]
  cases call with
  | start =>
      obtain ⟨phase, hstart⟩ := s.writer.exists_phase_of_start
      simp only [hstart]
      exact ⟨⟨⟨books.kept, books.queued, books.flushed, books.batches, books.failures, books.pieces⟩,
        h.ready⟩, same, rfl⟩
  | record e =>
      rcases s.writer.record_cases e with pushed | ⟨error, dropped⟩
      · simp only [pushed]
        refine ⟨⟨⟨?_, ?_, books.flushed, books.batches, books.failures, books.pieces⟩, h.ready.size,
          h.ready.buffer⟩, same, rfl⟩
        · show s.accepted ++ [e] = offered s.tried ++ (s.queue.entries ++ [e])
          rw [books.kept, List.append_assoc]
        · show s.writer.stats.queued + 1 = (s.accepted ++ [e]).length
          rw [books.queued, List.length_append]
          rfl
      · simp only [dropped]
        exact ⟨⟨⟨books.kept, books.queued, books.flushed, books.batches, books.failures, books.pieces⟩,
          h.ready.size, h.ready.buffer⟩, same, rfl⟩
  | wake => exact h.flush undoes holds
  | flush => exact h.flush undoes holds
  | shutdown =>
      by_cases running : s.writer.phase = .running
      · simp only [LogWriter.shutdown_of_running running]
        exact h.drainInto undoes holds running .stopped
      · simp only [LogWriter.shutdown_of_not_running running, drained_of_not_running running]
        exact h.left_of_idle holds running

/-- **A flush that succeeds** leaves an empty queue. -/
theorem Sound.queue_of_flush (undoes : c.Undoes) (h : s.Sound) (holds : s.disk.Holds batches)
    (done : s.writer.flush.1 = .ok ()) : s.writer.flush.2.pipeline.queue.entries = [] := by
  by_cases running : s.writer.phase = .running
  · rw [LogWriter.flush_of_running running] at done ⊢
    exact (List.append_eq_nil_iff.1 ((h.drains undoes holds running).emptied done)).2
  · rw [LogWriter.flush_of_not_running running] at done
    cases done

/-- No drain drops anything. -/
theorem Sound.dropped_of_drain (undoes : c.Undoes) (h : s.Sound) (holds : s.disk.Holds batches) :
    s.writer.flush.2.stats.dropped = s.writer.stats.dropped ∧
      s.writer.shutdown.2.stats.dropped = s.writer.stats.dropped := by
  by_cases running : s.writer.phase = .running
  · have keeps := (h.drains undoes holds running).keeps.rejected
    rw [LogWriter.flush_of_running running, LogWriter.shutdown_of_running running]
    exact ⟨keeps, keeps⟩
  · rw [LogWriter.flush_of_not_running running, LogWriter.shutdown_of_not_running running]
    exact ⟨rfl, rfl⟩

/-- As long as nothing is dropped, a session accepts what is recorded. -/
theorem Sound.accepting_of_act (undoes : c.Undoes) (h : s.Sound) (holds : s.disk.Holds batches)
    (call : LogCall) (none : (s.act call).2.writer.stats.dropped = 0) :
    s.writer.stats.dropped = 0 ∧ s.accepting call = call.recorded?.toList := by
  have drains := h.dropped_of_drain undoes holds
  rw [LogSession.act.eq_def] at none
  cases call with
  | start =>
      obtain ⟨phase, hstart⟩ := s.writer.exists_phase_of_start
      simp only [hstart] at none
      exact ⟨none, rfl⟩
  | record e =>
      rw [accepting]
      rcases s.writer.record_cases e with pushed | ⟨error, dropped⟩
      · simp only [pushed] at none ⊢
        exact ⟨none, rfl⟩
      · simp only [dropped] at none
        exact absurd none (Nat.succ_ne_zero _)
  | wake => exact ⟨drains.1 ▸ none, rfl⟩
  | flush => exact ⟨drains.1 ▸ none, rfl⟩
  | shutdown => exact ⟨drains.2 ▸ none, rfl⟩

end Calls
end LogSession
end ProbeRecorder
