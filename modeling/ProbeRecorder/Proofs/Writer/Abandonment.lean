import ProbeRecorder.Proofs.Writer.Durability

/-!
# `ProbeRecorder.Proofs.Writer.Abandonment` — what a drain leaves in the queue

The first batch that the disk refuses ends a drain. Its entries are lost and counted; the entries behind it
stay in the queue, and nobody has tried to store them. A drain that comes later offers them. After a
shutdown none does.

## Contents
- **Offers.** At most one is lost (`length_lost_offers`); everything is offered unless a batch before the
  last one meets a fault (`offered_offers_iff`).
- **Drains.** `LogSession.Worked`, what a drain did with the queue (`LogSession.Sound.worked`).
- **Stopped writers.** `LogSession.Rests`, what stays as it is (`LogSession.rests_of_stopped`).
- **Runs.** `LogSession.Attempts`, of every writer at the end of every run (`LogHistory.run_attempts`). Entries
  can be left behind for good (`LogHistory.run_abandons`).
-/

namespace ProbeRecorder

/-! ## Offers -/

/-- Only the last offer can be refused. -/
theorem length_lost_offers (size : Nat) (faults : List (Option BatchFault)) (waiting : List Entry) :
    (lost (offers size faults waiting)).length ≤ 1 := by
  fun_induction offers size faults waiting with
  | case1 faults waiting work free ih => simpa [lost] using ih
  | case2 faults waiting work fault meets => simp [lost]
  | case3 => simp [lost]

/-- After the first piece, the others have to offer the rest. -/
theorem offered_cons_iff (size : Nat) (waiting : List Entry) (taken : Bool) (rest : List Offer) :
    offered (⟨waiting.take size, taken⟩ :: rest) = waiting ↔ offered rest = waiting.drop size := by
  have pieces : waiting.take size ++ waiting.drop size = waiting := List.take_append_drop size waiting
  have first : offered (⟨waiting.take size, taken⟩ :: rest) = waiting.take size ++ offered rest := rfl
  rw [first]
  constructor
  · intro h
    exact List.append_cancel_left (h.trans pieces.symm)
  · intro h
    rw [h, pieces]

/-- **Everything that waits is offered** if no batch but the last one meets a fault, and only then. The
    batch at place `i` has others behind it if more waits than fills `i + 1` batches. -/
theorem offered_offers_iff {size : Nat} (positive : 0 < size) (faults : List (Option BatchFault))
    (waiting : List Entry) :
    offered (offers size faults waiting) = waiting ↔
      ∀ i, (i + 1) * size < waiting.length → faults[i]?.join = none := by
  fun_induction offers size faults waiting with
  | case1 faults waiting work free ih =>
      have first : faults[0]?.join = none := by rwa [← List.head?_eq_getElem?]
      rw [offered_cons_iff, ih, List.length_drop]
      -- The batches of the rest stand one place further in the whole.
      constructor
      · intro rest i hi
        cases i with
        | zero => exact first
        | succ i =>
            rw [Nat.succ_mul] at hi
            simpa [Nat.add_comm] using rest i (by omega)
      · intro all i hi
        have := all (i + 1) (by rw [Nat.succ_mul]; omega)
        simpa [Nat.add_comm] using this
  | case2 faults waiting work fault meets =>
      have first : faults[0]?.join = some fault := by rwa [← List.head?_eq_getElem?]
      rw [offered_cons_iff, eq_comm]
      show waiting.drop size = [] ↔ _
      rw [List.drop_eq_nil_iff]
      constructor
      · intro short i hi
        rw [Nat.succ_mul] at hi
        omega
      · intro all
        by_contra long
        have none := all 0 (by omega)
        rw [first] at none
        cases none
  | case3 faults waiting idle =>
      have empty : waiting = [] := by
        by_contra some
        exact idle ⟨positive, some⟩
      simp [empty, offered]

namespace LogSession

/-! ## Drains -/

/-- **What a drain did** with the queue. Its offers are the first pieces of what was queued; the books
    afterwards have all that was accepted either in one offer or still in the queue. -/
structure Worked (s : LogSession) (result : Except RecorderError Unit) (after : LogSession) : Prop where
  accounts : after.Accounts
  accepted : after.accepted = s.accepted
  tried : after.tried = s.tried ++ s.pending
  queue : s.queue.entries = offered s.pending ++ after.queue.entries
  done : result = .ok () ↔ lost s.pending = []
  single : (lost s.pending).length ≤ 1
  /-- Nothing was left out exactly if no batch but the last one met a fault. -/
  complete : offered after.tried = s.accepted ↔
    ∀ i, (i + 1) * s.writer.pipeline.batchSize < s.queue.size → s.writer.disk.batchFaults[i]?.join = none

/-- **Every drain** of a worker at work. -/
theorem Sound.worked [c : Compression] (undoes : c.Undoes) {s : LogSession} (h : s.Sound)
    {batches : List (List Entry)} (holds : s.disk.Holds batches) (running : s.writer.phase = .running)
    (phase : WriterPhase) :
    s.Worked s.writer.pipeline.drain.1 (s.drained (s.writer.drainInto phase)).2 := by
  have drains := h.drains undoes holds running
  have hpending := h.pending_eq running
  have queue : s.queue.entries = offered s.pending ++ s.writer.pipeline.drain.2.queue.entries := by
    have waits : s.writer.pipeline.waiting = s.queue.entries := h.ready.waiting_eq
    rw [← waits, drains.waiting, Pipeline.waiting, drains.buffer, List.nil_append]
  refine ⟨(h.drainInto undoes holds running phase).sound.accounts, rfl, rfl, queue, drains.done, ?_, ?_⟩
  · rw [hpending]
    exact length_lost_offers _ _ _
  · have split : offered (s.tried ++ s.pending) = s.accepted ↔ offered s.pending = s.queue.entries := by
      rw [offered_append, h.accounts.kept]
      exact List.append_right_inj _
    show offered (s.tried ++ s.pending) = s.accepted ↔ _
    rw [split, hpending]
    exact offered_offers_iff h.ready.size _ _

/-! ## Stopped writers -/

section Calls

variable [c : Compression]

/-- **A session at rest**: whatever else is asked of its writer, and whatever others make of the disk before, no
    batch is offered any more, and what is queued stays there. -/
def Rests (s : LogSession) : Prop :=
  ∀ calls : List (Disk × LogCall),
    (calls.foldl (fun s x => ((s.onDisk x.1).act x.2).2) s).tried = s.tried ∧
      s.queue.entries <+: (calls.foldl (fun s x => ((s.onDisk x.1).act x.2).2) s).queue.entries

/-- Of a worker that is not at work no drain comes. -/
theorem act_of_not_running {s : LogSession} (idle : s.writer.phase ≠ .running) :
    s.act .flush = (.error ⟨.recording, "Event log writer not running"⟩, s) ∧ s.act .wake = s.act .flush ∧
      s.act .shutdown = (.ok (), s) := by
  have same := fun result => drained_of_not_running idle result
  rw [LogSession.act, LogSession.act, LogSession.act, LogWriter.flush_of_not_running idle,
    LogWriter.shutdown_of_not_running idle]
  exact ⟨Prod.ext rfl (same _), rfl, Prod.ext rfl (same _)⟩

/-- One call of a stopped writer. -/
theorem act_of_stopped {s : LogSession} (stopped : s.writer.phase = .stopped) (call : LogCall) :
    (s.act call).2.writer.phase = .stopped ∧ (s.act call).2.tried = s.tried ∧
      s.queue.entries <+: (s.act call).2.queue.entries := by
  have idle : s.writer.phase ≠ .running := by simp [stopped]
  have unchanged : s.writer.phase = .stopped ∧ s.tried = s.tried ∧ s.queue.entries <+: s.queue.entries :=
    ⟨stopped, rfl, List.prefix_refl _⟩
  obtain ⟨flushes, wakes, shuts⟩ := act_of_not_running idle
  cases call with
  | start =>
      have hstart : s.writer.start.2 = s.writer := by
        rw [LogWriter.start, stopped]
      have same : (s.act .start).2 = s := by
        show { s with writer := s.writer.start.2 } = s
        rw [hstart]
      rwa [same]
  | record e =>
      rw [LogSession.act]
      rcases s.writer.record_cases e with pushed | ⟨error, dropped⟩
      · rw [pushed]
        exact ⟨stopped, rfl, List.prefix_append _ _⟩
      · rw [dropped]
        exact unchanged
  | wake => rwa [wakes, flushes]
  | flush => rwa [flushes]
  | shutdown => rwa [shuts]

/-- **A stopped writer** never comes back to its queue. -/
theorem rests_of_stopped {s : LogSession} (stopped : s.writer.phase = .stopped) : s.Rests := by
  intro calls
  induction calls generalizing s with
  | nil => exact ⟨rfl, List.prefix_refl _⟩
  | cons x rest ih =>
      obtain ⟨still, tried, kept⟩ := act_of_stopped (s := s.onDisk x.1) stopped x.2
      obtain ⟨laterTried, laterKept⟩ := ih still
      exact ⟨laterTried.trans tried, List.IsPrefix.trans kept laterKept⟩

/-! ## Runs -/

/-- **What a writer attempts.** A worker at work offers what is queued up to the first batch that the disk
    refuses; where it is shut down, what it left is never offered. Without a worker at work nothing is
    offered at all; a stopped one says so, and one that has not started yet keeps the question. -/
structure Attempts (s : LogSession) : Prop where
  flush : s.writer.phase = .running → s.Worked (s.act .flush).1 (s.act .flush).2
  shutdown : s.writer.phase = .running →
    s.Worked (s.act .shutdown).1 (s.act .shutdown).2 ∧ (s.act .shutdown).2.Rests
  stopped : s.writer.phase = .stopped →
    s.act .flush = (.error ⟨.recording, "Event log writer not running"⟩, s) ∧ s.act .shutdown = (.ok (), s)
  unstarted : s.writer.phase = .idle → (s.act .flush).2 = s ∧ (s.act .shutdown).2 = s

theorem Sound.attempts (undoes : c.Undoes) {s : LogSession} (h : s.Sound) {batches : List (List Entry)}
    (holds : s.disk.Holds batches) : s.Attempts := by
  constructor
  · intro running
    rw [LogSession.act, LogWriter.flush_of_running running]
    exact h.worked undoes holds running .running
  · intro running
    rw [LogSession.act, LogWriter.shutdown_of_running running]
    exact ⟨h.worked undoes holds running .stopped, rests_of_stopped rfl⟩
  · intro stopped
    obtain ⟨flushes, -, shuts⟩ := act_of_not_running (s := s) (by simp [stopped])
    exact ⟨flushes, shuts⟩
  · intro unstarted
    obtain ⟨flushes, -, shuts⟩ := act_of_not_running (s := s) (by simp [unstarted])
    exact ⟨congrArg Prod.snd flushes, congrArg Prod.snd shuts⟩

end Calls
end LogSession

namespace LogHistory

/-- **Attempts.** After every history, and whichever batches and rows the disk refuses, a writer at work
    leaves behind what comes after the first refused batch, and nothing else. -/
theorem run_attempts [c : Compression] (undoes : c.Undoes) (settings : WriterSettings)
    (faults : List (Option BatchFault)) (refusals : List Bool) (actions : List LogAction) :
    ∃ h, run settings { Disk.blank with batchFaults := faults, rowRefusals := refusals } actions =
      .ok h ∧ ∀ s ∈ h.sessions, s.Attempts := by
  obtain ⟨first, started, sound, -⟩ := exists_start_sound settings
    { Disk.blank with batchFaults := faults, rowRefusals := refusals } rfl rfl
  obtain ⟨last, ran, sound⟩ := sound.foldlM undoes actions
  refine ⟨last, bind_eq_ok_iff.2 ⟨first, started, ran⟩, fun s hs => ?_⟩
  obtain ⟨good, holds⟩ := sound.session_sound hs
  exact good.attempts undoes holds

/-- The disk refuses the first of two batches of one worker, while another one waits for its start. -/
theorem run_attempts_two :
    Compression.frames.Undoes ∧
      ∃ h, run ⟨1, 8, .fast⟩ { Disk.blank with batchFaults := [some .file] }
          [.call 0 .start, .call 0 (.record (.weave 1 [10])), .call 0 (.record (.weave 2 [20])),
            .reopen ⟨4, 2, .best⟩, .call 1 (.record (.weave 3 [30]))] = .ok h ∧
        h.sessions.length = 2 ∧ ∀ s ∈ h.sessions, s.Attempts := by
  obtain ⟨h, ran, attempts⟩ := run_attempts Compression.frames_undoes ⟨1, 8, .fast⟩ [some .file] []
    [.call 0 .start, .call 0 (.record (.weave 1 [10])), .call 0 (.record (.weave 2 [20])),
      .reopen ⟨4, 2, .best⟩, .call 1 (.record (.weave 3 [30]))]
  refine ⟨Compression.frames_undoes, h, ran, ?_, attempts⟩
  cases ran
  rfl

/-- **A shutdown can leave entries behind**: the disk refuses the first of two batches, and the worker stops
    with the second one in its queue. -/
theorem run_abandons :
    ∃ h s, run ⟨1, 8, .fast⟩ { Disk.blank with batchFaults := [some .file] }
        [.call 0 .start, .call 0 (.record (.weave 1 [10])), .call 0 (.record (.weave 2 [20])),
          .call 0 .shutdown] = .ok h ∧
      h.sessions = [s] ∧ s.writer.phase = .stopped ∧ s.accepted = [.weave 1 [10], .weave 2 [20]] ∧
      s.tried = [⟨[.weave 1 [10]], false⟩] ∧ s.queue.entries = [.weave 2 [20]] := by
  have undoes := Compression.frames_undoes
  obtain ⟨first, started, sound, -⟩ := exists_start_sound ⟨1, 8, .fast⟩
    { Disk.blank with batchFaults := [some .file] } rfl rfl
  obtain ⟨h, ran, sound⟩ := sound.foldlM undoes
    [.call 0 .start, .call 0 (.record (.weave 1 [10])), .call 0 (.record (.weave 2 [20]))]
  obtain ⟨s, sessions, running, tried, accepted, queue, size, faults⟩ :
      ∃ s, h.sessions = [s] ∧ s.writer.phase = .running ∧ s.tried = [] ∧
        s.accepted = [.weave 1 [10], .weave 2 [20]] ∧ s.queue.entries = [.weave 1 [10], .weave 2 [20]] ∧
        s.writer.pipeline.batchSize = 1 ∧ s.writer.disk.batchFaults = [some .file] := by
    cases started
    cases ran
    exact ⟨_, rfl, rfl, rfl, rfl, rfl, rfl, rfl⟩
  have found : h.sessions[0]? = some s := by rw [sessions]; rfl
  obtain ⟨good, -⟩ := sound.sessions 0 s found
  have worked := good.worked undoes (sound.session_holds found) running .stopped
  have refused : s.pending = [⟨[.weave 1 [10]], false⟩] := by
    rw [good.pending_eq running, queue, size, faults]
    exact offers_of_fault (by simp) rfl
  refine ⟨h.ask 0 .shutdown, (s.act .shutdown).2, ?_, ?_, ?_⟩
  · cases started
    cases ran
    rfl
  · rw [ask_of_found found, sessions]
    rfl
  · rw [LogSession.act, LogWriter.shutdown_of_running running]
    refine ⟨rfl, accepted, ?_, ?_⟩
    · rw [worked.tried, tried, refused]
      rfl
    · have kept := worked.queue
      rw [queue, refused] at kept
      exact (List.cons.inj kept).2.symm

end LogHistory
end ProbeRecorder
