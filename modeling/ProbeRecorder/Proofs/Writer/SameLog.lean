import ProbeRecorder.Proofs.Writer.Durability

/-!
# `ProbeRecorder.Proofs.Writer.SameLog` — the rows of classes have no part in the log

The rows of classes stand beside the log: what is stored in it, and what a writer answers, is the same over
disks that differ in these rows and in nothing else, whether the rows are refused, were there before or have
no table at all.

## Contents
- **Disks.** `Disk.SameLog`; the same entries are read (`Disk.SameLog.readEntries_iff`). No row of a class
  changes the log (`Disk.sameLog_recordClass`), and two disks with the same log give the `SameAnswer` when a
  batch is written (`Disk.SameLog.writeBatch`) and when they are opened (`Disk.SameLog.prepare`).
- **Batches and drains.** `Archive.SameLog.store`, `Pipeline.SameLog.drain`.
- **Sessions.** `LogSession.SameLog.act`, of every call.
- **Runs.** `LogHistory.SameLog`, of the runs over two such disks (`LogHistory.exists_sameLog_run`).
-/

namespace ProbeRecorder

/-- **The same answer**, with states behind it that are related. -/
structure SameAnswer {α σ : Type} (related : σ → σ → Prop) (x y : α × σ) : Prop where
  answer : x.1 = y.1
  state : related x.2 y.2

theorem SameAnswer.cases {α σ : Type} {related : σ → σ → Prop} {x y : α × σ}
    (h : SameAnswer related x y) :
    ∃ answer s t, x = (answer, s) ∧ y = (answer, t) ∧ related s t :=
  ⟨x.1, x.2, y.2, rfl, by rw [h.answer], h.state⟩

/-! ## Disks -/

/-- What is left of a database without the rows of classes. -/
def Database.withoutClasses : Database → Database
  | .file t => .file { t with classes := none }
  | other => other

namespace Disk

variable {d e f : Disk}

/-- **Disks with the same log.** The rows of classes may differ, and which of them are refused. -/
structure SameLog (d e : Disk) : Prop where
  folder : d.folder = e.folder
  database : d.database.withoutClasses = e.database.withoutClasses
  faults : d.batchFaults = e.batchFaults

theorem SameLog.symm (h : d.SameLog e) : e.SameLog d := ⟨h.folder.symm, h.database.symm, h.faults.symm⟩

theorem SameLog.trans (h : d.SameLog e) (h' : e.SameLog f) : d.SameLog f :=
  ⟨h.folder.trans h'.folder, h.database.trans h'.database, h.faults.trans h'.faults⟩

/-- The databases are the same, or both have tables. -/
theorem SameLog.database_cases (h : d.SameLog e) :
    d.database = e.database ∨
      ∃ t u, d.database = .file t ∧ e.database = .file u ∧ t.batches = u.batches := by
  have same := h.database
  generalize d.database = before at same ⊢
  generalize e.database = after at same ⊢
  cases before <;> cases after <;> simp_all [Database.withoutClasses]

theorem SameLog.batches (h : d.SameLog e) : d.tables.batches = e.tables.batches := by
  unfold tables
  rcases h.database_cases with same | ⟨t, u, before, after, batches⟩
  · rw [same]
  · rw [before, after]
    exact batches

/-- **The same entries are read.** -/
theorem SameLog.readEntries_iff [Compression] (h : d.SameLog e) {entries : List Entry} :
    d.readEntries = .ok entries ↔ e.readEntries = .ok entries := by
  have reads : d.entriesOf = e.entriesOf := by
    funext row
    unfold entriesOf readBatch readFile?
    rw [h.batches, h.folder]
  unfold readEntries batchRows
  rw [h.batches, reads]
  cases e.tables.batches with
  | none =>
      constructor
      · intro read
        cases read
      · intro read
        cases read
  | some rows => exact Iff.rfl

/-! ### Writing -/

/-- **The row of a class** is no part of the log. -/
theorem sameLog_recordClass (d : Disk) (classId : ClassId) (probes : List ProbeId) :
    d.SameLog (d.recordClass classId probes).2 := by
  have leaves (rows : FiniteMap ClassId ClassRow) (present : d.tables.classes = some rows)
      (put : FiniteMap ClassId ClassRow) :
      d.database.withoutClasses = (Database.file { d.tables with classes := some put }).withoutClasses := by
    unfold tables at present ⊢
    cases kind : d.database <;> rw [kind] at present <;> first | cases present | rfl
  unfold recordClass
  cases present : d.tables.classes with
  | none => exact ⟨rfl, rfl, rfl⟩
  | some rows =>
      dsimp only
      split
      · exact ⟨rfl, rfl, rfl⟩
      · exact ⟨rfl, leaves rows present _, rfl⟩

/-- Both files are written, or neither is. -/
theorem SameLog.writeFile (h : d.SameLog e) (sequence : Int) (content : Bytes) :
    d.writeFile sequence content = none ∧ e.writeFile sequence content = none ∨
      ∃ d' e', d.writeFile sequence content = some d' ∧ e.writeFile sequence content = some e' ∧
        d'.SameLog e' := by
  unfold Disk.writeFile
  rw [h.folder]
  cases e.folder with
  | missing => exact .inl ⟨rfl, rfl⟩
  | file => exact .inl ⟨rfl, rfl⟩
  | directory files => exact .inr ⟨_, _, rfl, rfl, ⟨rfl, h.database, h.faults⟩⟩

/-- A batch that meets the same fault. -/
theorem SameLog.writeBatchMeeting (h : d.SameLog e) (fault : Option BatchFault) (content : Bytes)
    (entryCount : Int64) :
    SameAnswer SameLog (d.writeBatchMeeting fault content entryCount)
      (e.writeBatchMeeting fault content entryCount) := by
  unfold Disk.writeBatchMeeting
  rw [h.batches]
  cases if fault = some .number then none else e.tables.batches with
  | none => exact ⟨rfl, h⟩
  | some rows =>
      dsimp only
      by_cases atFile : fault = some .file
      · rw [if_pos atFile, if_pos atFile]
        exact ⟨rfl, h⟩
      · rw [if_neg atFile, if_neg atFile]
        rcases h.writeFile (nextSequence rows) content with ⟨none, none'⟩ | ⟨d', e', some, some', same⟩
        · rw [none, none']
          exact ⟨rfl, h⟩
        · rw [some, some']
          dsimp only
          split
          · exact ⟨rfl, same⟩
          · exact ⟨rfl, same.folder, rfl, same.faults⟩

/-- **A batch** is written to both disks or to neither. -/
theorem SameLog.writeBatch (h : d.SameLog e) (content : Bytes) (entryCount : Int64) :
    SameAnswer SameLog (d.writeBatch content entryCount) (e.writeBatch content entryCount) := by
  unfold Disk.writeBatch
  rw [h.faults]
  apply SameLog.writeBatchMeeting
  exact ⟨h.folder, h.database, rfl⟩

/-! ### Opening -/

/-- The tables that are missing are made in both databases or in neither. -/
theorem SameLog.prepareTables (h : d.SameLog e) :
    SameAnswer SameLog d.prepareTables e.prepareTables := by
  unfold Disk.prepareTables tables
  rcases h.database_cases with same | ⟨t, u, before, after, batches⟩
  · rw [same]
    cases e.database with
    | missing => exact ⟨rfl, h.folder, rfl, h.faults⟩
    | directory => exact ⟨rfl, h⟩
    | foreign => exact ⟨rfl, h⟩
    | file t => exact ⟨rfl, h.folder, rfl, h.faults⟩
  · rw [before, after]
    refine ⟨rfl, h.folder, ?_, h.faults⟩
    simp [Database.withoutClasses, batches]

/-- **Both disks are opened** or neither is. -/
theorem SameLog.prepare (h : d.SameLog e) : SameAnswer SameLog d.prepare e.prepare := by
  unfold Disk.prepare prepareFolder
  rw [h.folder]
  cases e.folder with
  | file => exact ⟨rfl, h⟩
  | missing =>
      apply SameLog.prepareTables
      exact ⟨rfl, h.database, h.faults⟩
  | directory files => exact h.prepareTables

end Disk

/-! ## Batches -/

namespace Archive

variable {a b c : Archive}

/-- **Archives with the same log.** The counters may differ in the rows that were refused. -/
structure SameLog (a b : Archive) : Prop where
  level : a.level = b.level
  disk : a.disk.SameLog b.disk
  flushed : a.entriesFlushed = b.entriesFlushed
  stored : a.batchesFlushed = b.batchesFlushed
  bytes : a.bytesWritten = b.bytesWritten
  failures : a.flushFailures = b.flushFailures

theorem SameLog.symm (h : a.SameLog b) : b.SameLog a :=
  ⟨h.level.symm, h.disk.symm, h.flushed.symm, h.stored.symm, h.bytes.symm, h.failures.symm⟩

theorem SameLog.trans (h : a.SameLog b) (h' : b.SameLog c) : a.SameLog c :=
  ⟨h.level.trans h'.level, h.disk.trans h'.disk, h.flushed.trans h'.flushed, h.stored.trans h'.stored,
    h.bytes.trans h'.bytes, h.failures.trans h'.failures⟩

theorem SameLog.refl (a : Archive) : a.SameLog a := ⟨rfl, ⟨rfl, rfl, rfl⟩, rfl, rfl, rfl, rfl⟩

theorem sameLog_storeRow (a : Archive) (e : Entry) : a.SameLog (a.storeRow e) := by
  cases e with
  | event e => exact .refl a
  | weave classId probes =>
      have same := a.disk.sameLog_recordClass classId probes
      rw [storeRow]
      split <;> rename_i recorded <;> rw [recorded] at same
      · exact ⟨rfl, same, rfl, rfl, rfl, rfl⟩
      · exact ⟨rfl, same, rfl, rfl, rfl, rfl⟩

/-- The rows of a batch. -/
theorem sameLog_foldl_storeRow (a : Archive) (entries : List Entry) :
    a.SameLog (entries.foldl storeRow a) := by
  induction entries generalizing a with
  | nil => exact .refl a
  | cons e rest ih => exact (a.sameLog_storeRow e).trans (ih (a.storeRow e))

/-- **A batch** is stored in both archives or in neither. -/
theorem SameLog.store [c : Compression] (h : a.SameLog b) (entries : List Entry) :
    SameAnswer SameLog (a.store entries) (b.store entries) := by
  have encodes : c.encode a.level entries = c.encode b.level entries := by rw [h.level]
  unfold Archive.store
  rw [encodes]
  cases c.encode b.level entries with
  | error error =>
      exact ⟨rfl, h.level, h.disk, h.flushed, h.stored, h.bytes, congrArg (· + 1) h.failures⟩
  | ok content =>
    obtain ⟨answer, disk, disk', written, written', disks⟩ :=
      (h.disk.writeBatch content entries.length.toInt64).cases
    simp only [written, written']
    cases answer with
    | error error => exact ⟨rfl, h.level, disks, h.flushed, h.stored, h.bytes, congrArg (· + 1) h.failures⟩
    | ok number =>
        have rows := sameLog_foldl_storeRow { a with disk := disk } entries
        have rows' := sameLog_foldl_storeRow { b with disk := disk' } entries
        have batches : SameLog { a with disk := disk } { b with disk := disk' } :=
          ⟨h.level, disks, h.flushed, h.stored, h.bytes, h.failures⟩
        have same := (rows.symm.trans batches).trans rows'
        refine ⟨rfl, same.level, same.disk, ?_, ?_, ?_, same.failures⟩
        · exact congrArg (· + entries.length) same.flushed
        · exact congrArg (· + 1) same.stored
        · exact congrArg (· + content.length) same.bytes

end Archive

/-! ## Drains -/

namespace Pipeline

variable {p q : Pipeline}

/-- **Pipelines with the same log**: the same waits, in archives with the same log. -/
structure SameLog (p q : Pipeline) : Prop where
  size : p.batchSize = q.batchSize
  queue : p.queue = q.queue
  buffer : p.buffer = q.buffer
  archive : p.archive.SameLog q.archive

theorem SameLog.fill (h : p.SameLog q) : SameAnswer SameLog p.fill q.fill := by
  unfold Pipeline.fill
  rw [h.size, h.queue, h.buffer]
  exact ⟨rfl, rfl, rfl, rfl, h.archive⟩

/-- **One batch** has the same answer. -/
theorem SameLog.storeIfDue [Compression] (h : p.SameLog q) (moved : Nat) :
    SameAnswer SameLog (p.storeIfDue moved) (q.storeIfDue moved) := by
  have stores := h.archive.store q.buffer
  unfold Pipeline.storeIfDue Pipeline.storeBuffer isDue
  rw [h.size, h.buffer]
  split
  · split
    · exact ⟨rfl, h⟩
    · exact ⟨stores.answer, rfl, h.queue, rfl, stores.state⟩
  · exact ⟨rfl, h⟩

/-- **A drain** has the same answer. -/
theorem SameLog.drain [Compression] (h : p.SameLog q) : SameAnswer SameLog p.drain q.drain := by
  -- Induction on the queue: a round that another one follows has taken something out of it.
  generalize size : p.queue.size = n
  induction n using Nat.strongRecOn generalizing p q with
  | ind n ih =>
    obtain ⟨moved, filled⟩ := h.fill
    obtain ⟨answer, after, after', round, round', stored⟩ := (filled.storeIfDue q.fill.1).cases
    rw [p.drain_eq, q.drain_eq, moved, round, round']
    cases answer with
    | error error => exact ⟨rfl, stored⟩
    | ok =>
        by_cases none : q.fill.1 = 0
        · simp only [none, if_true]
          exact ⟨rfl, stored⟩
        · simp only [if_neg none]
          apply ih after.queue.size _ stored rfl
          have moves := p.fill_queue_size
          have kept : after.queue = p.fill.2.queue := by
            rw [← p.fill.2.storeIfDue_queue q.fill.1, round]
          rw [kept]
          omega

end Pipeline

/-! ## Sessions -/

/-- **Writers with the same log.** -/
structure LogWriter.SameLog (w v : LogWriter) : Prop where
  phase : w.phase = v.phase
  pipeline : w.pipeline.SameLog v.pipeline

/-- **Sessions with the same log**: the same entries were accepted, and the same batches were offered. -/
structure LogSession.SameLog (s t : LogSession) : Prop where
  writer : s.writer.SameLog t.writer
  accepted : s.accepted = t.accepted
  tried : s.tried = t.tried

namespace LogWriter

variable {w v : LogWriter}

theorem SameLog.drainInto [Compression] (h : w.SameLog v) (phase : WriterPhase) :
    SameAnswer SameLog (w.drainInto phase) (v.drainInto phase) :=
  ⟨h.pipeline.drain.answer, rfl, h.pipeline.drain.state⟩

theorem SameLog.flush [Compression] (h : w.SameLog v) : SameAnswer SameLog w.flush v.flush := by
  by_cases running : v.phase = .running
  · rw [flush_of_running running, flush_of_running (h.phase.trans running)]
    exact h.drainInto .running
  · rw [flush_of_not_running running, flush_of_not_running fun r => running (h.phase.symm.trans r)]
    exact ⟨rfl, h⟩

theorem SameLog.shutdown [Compression] (h : w.SameLog v) : SameAnswer SameLog w.shutdown v.shutdown := by
  by_cases running : v.phase = .running
  · rw [shutdown_of_running running, shutdown_of_running (h.phase.trans running)]
    exact h.drainInto .stopped
  · rw [shutdown_of_not_running running, shutdown_of_not_running fun r => running (h.phase.symm.trans r)]
    exact ⟨rfl, h⟩

theorem SameLog.start (h : w.SameLog v) : SameAnswer SameLog w.start v.start := by
  unfold LogWriter.start
  rw [h.phase]
  cases v.phase with
  | idle => exact ⟨rfl, rfl, h.pipeline⟩
  | running => exact ⟨rfl, h⟩
  | stopped => exact ⟨rfl, h⟩

theorem SameLog.record (h : w.SameLog v) (e : Entry) :
    SameAnswer SameLog (w.record e) (v.record e) := by
  unfold LogWriter.record
  rw [h.pipeline.queue]
  cases v.pipeline.queue.push e with
  | mk answer queue =>
    have pushed : ({ w with pipeline := { w.pipeline with queue := queue } } : LogWriter).SameLog
        { v with pipeline := { v.pipeline with queue := queue } } :=
      ⟨h.phase, h.pipeline.size, rfl, h.pipeline.buffer, h.pipeline.archive⟩
    cases answer with
    | ok done => exact ⟨rfl, pushed⟩
    | error back => exact ⟨rfl, pushed⟩

/-- **A new writer** over either disk. -/
theorem exists_sameLog_new {settings : WriterSettings} {d e : Disk} (h : d.SameLog e)
    (made : new settings d = .ok w) : ∃ v, new settings e = .ok v ∧ w.SameLog v := by
  obtain ⟨answer, disk, disk', prepared, prepared', opened⟩ := h.prepare.cases
  unfold new at made ⊢
  rw [prepared] at made
  rw [prepared']
  cases answer with
  | error error => cases made
  | ok =>
      cases made
      exact ⟨_, rfl, rfl, rfl, rfl, rfl, rfl, opened, rfl, rfl, rfl, rfl⟩

end LogWriter

namespace LogSession

variable {s t : LogSession}

/-- A worker at work would offer the same. -/
theorem SameLog.pending (h : s.SameLog t) : s.pending = t.pending := by
  have waits : s.writer.pipeline.waiting = t.writer.pipeline.waiting := by
    rw [Pipeline.waiting, Pipeline.waiting, h.writer.pipeline.buffer, h.writer.pipeline.queue]
  have faults : s.writer.disk.batchFaults = t.writer.disk.batchFaults :=
    h.writer.pipeline.archive.disk.faults
  unfold LogSession.pending
  rw [h.writer.phase, h.writer.pipeline.size, faults, waits]

theorem SameLog.drained (h : s.SameLog t) {answer answer' : Except RecorderError Unit × LogWriter}
    (same : SameAnswer LogWriter.SameLog answer answer') :
    SameAnswer SameLog (s.drained answer) (t.drained answer') := by
  refine ⟨same.answer, same.state, h.accepted, ?_⟩
  show s.tried ++ s.pending = t.tried ++ t.pending
  rw [h.tried, h.pending]

/-- **Every call** has the same answer. -/
theorem SameLog.act [Compression] (h : s.SameLog t) (call : LogCall) :
    SameAnswer SameLog (s.act call) (t.act call) := by
  cases call with
  | start => exact ⟨h.writer.start.answer, h.writer.start.state, h.accepted, h.tried⟩
  | record e =>
      obtain ⟨answer, writer, writer', recorded, recorded', writers⟩ := (h.writer.record e).cases
      rw [LogSession.act.eq_def, LogSession.act.eq_def]
      simp only [recorded, recorded']
      cases answer with
      | ok => exact ⟨rfl, writers, congrArg (· ++ [e]) h.accepted, h.tried⟩
      | error error => exact ⟨rfl, writers, h.accepted, h.tried⟩
  | wake => exact h.drained h.writer.flush
  | flush => exact h.drained h.writer.flush
  | shutdown => exact h.drained h.writer.shutdown

/-- The same is queued, and the same is offered. -/
theorem SameLog.calls (h : s.SameLog t) (call : LogCall) :
    s.accepting call = t.accepting call ∧ s.offering call = t.offering call := by
  have pending := h.pending
  cases call with
  | start => exact ⟨rfl, rfl⟩
  | record e =>
      obtain ⟨answer, writer, writer', recorded, recorded', -⟩ := (h.writer.record e).cases
      rw [accepting, accepting, recorded, recorded']
      cases answer with
      | ok => exact ⟨rfl, rfl⟩
      | error error => exact ⟨rfl, rfl⟩
  | wake => exact ⟨rfl, pending⟩
  | flush => exact ⟨rfl, pending⟩
  | shutdown => exact ⟨rfl, pending⟩

/-- Over disks with the same log. -/
theorem SameLog.onDisk (h : s.SameLog t) {d e : Disk} (disks : d.SameLog e) : (s.onDisk d).SameLog (t.onDisk e) :=
  have archive := h.writer.pipeline.archive
  ⟨⟨h.writer.phase, h.writer.pipeline.size, h.writer.pipeline.queue, h.writer.pipeline.buffer, archive.level,
    disks, archive.flushed, archive.stored, archive.bytes, archive.failures⟩, h.accepted, h.tried⟩

end LogSession

/-! ## Runs -/

/-- What stands at the same place of related lists is related. -/
theorem exists_of_forall₂ {α β : Type} {related : α → β → Prop} {as : List α} {bs : List β}
    (h : List.Forall₂ related as bs) {k : Nat} {a : α} (found : as[k]? = some a) :
    ∃ b, bs[k]? = some b ∧ related a b := by
  induction h generalizing k with
  | nil => cases found
  | @cons first other _ _ head _ ih =>
      cases k with
      | zero =>
          obtain rfl := Option.some.inj found
          exact ⟨other, rfl, head⟩
      | succ k => exact ih found

theorem forall₂_set {α β : Type} {related : α → β → Prop} {as : List α} {bs : List β}
    (h : List.Forall₂ related as bs) (k : Nat) {a : α} {b : β} (new : related a b) :
    List.Forall₂ related (as.set k a) (bs.set k b) := by
  induction h generalizing k with
  | nil => exact .nil
  | cons head tail ih =>
      cases k with
      | zero => exact .cons new tail
      | succ k => exact .cons head (ih k)

namespace LogHistory

variable {h k after : LogHistory}

/-- **Histories with the same log**, session by session. -/
structure SameLog (h k : LogHistory) : Prop where
  disk : h.disk.SameLog k.disk
  sessions : List.Forall₂ LogSession.SameLog h.sessions k.sessions
  accepted : h.accepted = k.accepted
  offers : h.offers = k.offers

/-- **A call** of one writer. -/
theorem SameLog.ask [Compression] (same : h.SameLog k) (j : Nat) (call : LogCall) :
    (h.ask j call).SameLog (k.ask j call) := by
  cases found : h.sessions[j]? with
  | none =>
      have behind := List.getElem?_eq_none_iff.1 found
      rw [ask_of_none found, ask_of_none (List.getElem?_eq_none_iff.2 (same.sessions.length_eq ▸ behind))]
      exact same
  | some s =>
      obtain ⟨t, found', alike⟩ := exists_of_forall₂ same.sessions found
      have acts := (alike.act call).state
      have disks := acts.writer.pipeline.archive.disk
      obtain ⟨accepts, offers⟩ := alike.calls call
      rw [ask_of_found found, ask_of_found found', accepts, offers, same.accepted, same.offers]
      exact ⟨disks, List.rel_map (fun _ _ both => both.onDisk disks) (forall₂_set same.sessions j acts), rfl, rfl⟩

/-- **Another writer** over either disk. -/
theorem SameLog.reopen (same : h.SameLog k) {settings : WriterSettings}
    (reopened : h.reopen settings = .ok after) :
    ∃ after', k.reopen settings = .ok after' ∧ after.SameLog after' := by
  obtain ⟨writer, made, ended⟩ := bind_eq_ok_iff.1 reopened
  cases ended
  obtain ⟨writer', made', writers⟩ := LogWriter.exists_sameLog_new same.disk made
  have disks := writers.pipeline.archive.disk
  refine ⟨_, bind_eq_ok_iff.2 ⟨writer', made', rfl⟩, disks, ?_, same.accepted, same.offers⟩
  exact List.rel_append (List.rel_map (fun _ _ both => both.onDisk disks) same.sessions)
    (.cons ⟨writers, rfl, rfl⟩ .nil)

/-- **One step after the other.** -/
theorem SameLog.foldlM [Compression] (same : h.SameLog k) (actions : List LogAction)
    (ran : actions.foldlM LogHistory.step h = .ok after) :
    ∃ after', actions.foldlM LogHistory.step k = .ok after' ∧ after.SameLog after' := by
  induction actions generalizing h k with
  | nil =>
      cases ran
      exact ⟨k, rfl, same⟩
  | cons action rest ih =>
      obtain ⟨next, stepped, steps⟩ := bind_eq_ok_iff.1 ran
      obtain ⟨next', stepped', same'⟩ : ∃ next', k.step action = .ok next' ∧ next.SameLog next' := by
        cases action with
        | call j call =>
            cases stepped
            exact ⟨_, rfl, same.ask j call⟩
        | reopen settings => exact same.reopen stepped
      obtain ⟨last, steps', same''⟩ := ih same' steps
      exact ⟨last, bind_eq_ok_iff.2 ⟨next', stepped', steps'⟩, same''⟩

/-- **The log is apart from the rows.** Where two disks have the same log, a run over the one is a run over the
    other, and they have the same log again. -/
theorem exists_sameLog_run [Compression] {settings : WriterSettings} {d e : Disk} (same : d.SameLog e)
    {actions : List LogAction} (ran : run settings d actions = .ok h) :
    ∃ k, run settings e actions = .ok k ∧ h.SameLog k := by
  obtain ⟨first, started, steps⟩ := bind_eq_ok_iff.1 ran
  have none : SameLog ⟨d, [], [], []⟩ ⟨e, [], [], []⟩ := ⟨same, .nil, rfl, rfl⟩
  obtain ⟨first', started', begins⟩ := none.reopen started
  obtain ⟨last, steps', lasting⟩ := begins.foldlM actions steps
  exact ⟨last, bind_eq_ok_iff.2 ⟨first', started', steps'⟩, lasting⟩

end LogHistory
end ProbeRecorder
